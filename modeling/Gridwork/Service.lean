import Gridwork.Build.Basic
import Gridwork.Filename
import Gridwork.Formula
import Gridwork.Settings.Basic
import Gridwork.Storage.Deposit
import Gridwork.Validation

/-!
# The workbook service

The service takes a request from its JSON to a stored workbook. Formulas are cleaned on a copy of
the request, which is then validated, held against the bound on rows, built and saved; the file name
is derived from the request as it came. All of this is `prepare`, which knows nothing of files. Only
then `generate` stores the workbook, if it is to be kept.
-/

namespace Gridwork

/-- A workbook that answers a request. -/
structure Generated where
  filename : String
  document : Document
  savedPath : Option Path
  deriving DecidableEq, Repr

namespace Generated

/-- The media type of workbook files. -/
def mediaType := "application/vnd.openxmlformats-officedocument.spreadsheetml.sheet"

/-- The titles of the sheets. -/
def sheetNames (g : Generated) : List Text := g.document.sheets.map (·.title)

/-- The number of sheets. -/
def sheetCount (g : Generated) : Nat := g.sheetNames.length

/-- The number of octets of the file. -/
def size (g : Generated) : Nat := g.document.encode.length

end Generated

/-- Why a request is not answered with a workbook. -/
inductive ServiceError where
  | invalid (found : List Violation)
  | failure (e : Failure)
  | save (e : SaveError)
  | store (e : StoreFailure)
  deriving DecidableEq, Repr

namespace Service

/-- All violations of a request. -/
def check (settings : Settings) (request : Json) : List Violation :=
  violations settings.scanBusinessData request.sanitizeFormulas

/-! ### The bound on rows -/

/-- The error of a sheet with more data rows than the bound allows. -/
def excess? (limit : Int) : Json → Option BuildError
  | .obj sheet =>
    match Json.Entries.field sheet Field.rows with
    | .arr rows =>
      if limit < rows.length then
        some (.tooManyRows (Json.Entries.field sheet Field.name) rows.length limit)
      else none
    | _ => none
  | _ => none

/-- The sheets of a request, none if it has no array of sheets. -/
def sheetsOf : Json → List Json
  | .obj root =>
    match Json.Entries.get? root Field.workbook with
    | some (.obj workbook) =>
      match Json.Entries.field workbook Field.sheets with
      | .arr sheets => sheets
      | _ => []
    | _ => []
  | _ => []

/-- The error of the first sheet with too many data rows. -/
def rowExcess? (bound : Option Int) (request : Json) : Option BuildError :=
  bound.bind fun limit => (sheetsOf request).findSome? (excess? limit)

/-! ### From the request to the document -/

/-- What came of a request before anything is stored: the document or the error, and the events up
to there. -/
structure Prepared where
  outcome : Except ServiceError Document
  events : List Event

/-- The document of a request that has been found in order. -/
def assemble (request : Json) : Prepared :=
  let built := buildWorkbook request
  match built.outcome with
  | .error e => ⟨.error (.failure e), built.events⟩
  | .ok workbook =>
    match workbook.save with
    | .error e => ⟨.error (.save e), built.events⟩
    | .ok document => ⟨.ok document, built.events⟩

/-- The document of a request. -/
def prepare (settings : Settings) (request : Json) : Prepared :=
  let cleaned := request.sanitizeFormulas
  let found := violations settings.scanBusinessData cleaned
  if found.isEmpty then
    match rowExcess? settings.maxRowsPerSheet cleaned with
    | some e => ⟨.error (.failure (.build e)), []⟩
    | none => assemble cleaned
  else ⟨.error (.invalid found), rejectionEvents found⟩

/-! ### Storing -/

/-- What came of a request: the workbook or the error, the files afterwards and all events. -/
structure Outcome where
  result : Except ServiceError Generated
  files : FileSystem FileContent
  events : List Event

/-- Whether a workbook is kept: as the caller says, or else as the settings say. -/
def keeps (settings : Settings) (persist : Option Bool) : Bool :=
  persist.getD settings.persistGenerated

/-- The event of a workbook that is ready. -/
def readyEvent (g : Generated) : Event := .generated g.filename g.sheetCount g.size

/-- Answers with a document that is kept in the directory of the settings. -/
def deliverKept (settings : Settings) (files : FileSystem FileContent) (filename : String)
    (document : Document) (events : List Event) : Outcome :=
  let deposit := Deposit.make files settings.templatesDir filename (.workbook document)
  let events := events ++ deposit.events
  match deposit.result with
  | .error e => ⟨.error (.store e), deposit.files, events⟩
  | .ok path =>
    let g : Generated := ⟨filename, document, some path⟩
    ⟨.ok g, deposit.files, events ++ [readyEvent g]⟩

/-- Answers with a document that is not kept. -/
def deliver (files : FileSystem FileContent) (filename : String) (document : Document)
    (events : List Event) : Outcome :=
  let g : Generated := ⟨filename, document, none⟩
  ⟨.ok g, files, events ++ [readyEvent g]⟩

/-- Answers a request with a workbook. -/
def generate (settings : Settings) (files : FileSystem FileContent) (request : Json)
    (persist : Option Bool) : Outcome :=
  let filename := Filename.derive request
  let prepared := prepare settings request
  match prepared.outcome with
  | .error e => ⟨.error e, files, prepared.events⟩
  | .ok document =>
    if keeps settings persist then deliverKept settings files filename document prepared.events
    else deliver files filename document prepared.events

end Service

end Gridwork
