import Gridwork.Build.Plan
import Gridwork.Event
import Gridwork.Workbook.Document

/-!
# Building workbooks

`buildWorkbook` goes through a request once and stops at the first error. What was done up to there
stays done: a sheet that has been added, a row that has been reserved, cells that have been written
and events that have been reported. Every part of the request is first read into a plan, and only
then written, so a faulty style never leaves a trace.

A step of building is a state transformer that keeps its state when it fails.
-/

namespace Gridwork

/-- The state of building: the thing built so far and the events reported so far. -/
structure Progress (σ : Type) where
  state : σ
  events : Array Event

/-- A step of building a `σ`. -/
abbrev Build (σ α : Type) := EStateM Failure (Progress σ) α

namespace Build

variable {σ α β : Type}

/-- Reports an event. -/
def report (e : Event) : Build σ Unit :=
  modify fun p => { p with events := p.events.push e }

/-- Changes the thing that is built. -/
def change (f : σ → σ) : Build σ Unit :=
  modify fun p => { p with state := f p.state }

/-- Stops with an error. -/
def stop (e : BuildError) : Build σ α := throw (.build e)

/-- Takes a result over. -/
def ofExcept : Except BuildError α → Build σ α
  | .ok a => pure a
  | .error e => stop e

/-- Does a step for every member of a list, in order and with its index; `i` is the index of the
first of them. -/
@[specialize]
def forEach (step : Nat → β → Build σ Unit) (i : Nat) : List β → Build σ Unit
  | [] => pure ()
  | b :: rest => do
    step i b
    forEach step (i + 1) rest

/-! ### Cells -/

/-- Writes one cell of the row that has been reserved. -/
def writeCell (row : Int) (column : Nat) (content : Content) (style : Option Style) :
    Build Sheet Unit :=
  if 1 ≤ row ∧ row ≤ Cell.maxRow then change (·.push ⟨row.toNat, column, content, style⟩)
  else throw .rowOutOfRange

/-- Writes a text cell. A text that cannot be written leaves a cell without a value. -/
def writeText (row : Int) (column : Nat) (style : Option Style) (field text : Text) :
    Build Sheet Unit :=
  match Cell.textContent? text with
  | some content => writeCell row column content style
  | none => do
    writeCell row column .refused none
    stop (.illegalText field)

/-- Writes a value of a data row. For an object or array an empty text is written. -/
def writeValue (row : Int) (column : Nat) (style : Option Style) (key : Text) :
    Json → Build Sheet Unit
  | .null => stop (.nullValue key)
  | .bool b => writeCell row column (.bool b) style
  | .int n => writeCell row column (.int n) style
  | .float x =>
    if x.isFinite then writeCell row column (.float x) style
    else do
      writeCell row column .vacant none
      stop (.notFinite key x)
  | .str s => writeText row column style key s
  | .arr _ => do
    writeText row column style key ""
    report (.blankedValue key .array)
  | .obj _ => do
    writeText row column style key ""
    report (.blankedValue key .object)

/-! ### Rows -/

/-- Reserves the next row and returns it. -/
def reserveRow : Build Sheet Int := do
  let row := (← get).state.nextRow
  change Sheet.reserveRow
  return row

/-- Writes a label of a header; `i` is its index. -/
def writeLabel (row : Int) (style : Style) (path : Text) (i : Nat) : Json → Build Sheet Unit
  | .str label => writeText row (i + 1) (some style) (joinIndex path i) label
  | _ => stop (.notText (joinIndex path i))

/-- Writes a column of a data row; `i` is its index. -/
def writeColumn (row : Int) (style : Option Style) (i : Nat) (column : Text × Json) :
    Build Sheet Unit :=
  writeValue row (i + 1) style column.1 column.2

/-- Writes a header row. -/
def writeHeader (path : Text) (node : Json) : Build Sheet Unit := do
  let plan ← ofExcept (HeaderPlan.read path node)
  let row ← reserveRow
  forEach (writeLabel row plan.style (fieldPath path Field.columns)) 0 plan.columns

/-- Writes a data row. -/
def writeRow (path : Text) (node : Json) : Build Sheet Unit := do
  let plan ← ofExcept (RowPlan.read path node)
  let row ← reserveRow
  forEach (writeColumn row plan.style) 0 plan.columns

/-! ### Sheets -/

/-- Writes the header of a sheet, which must be there. -/
def writeSheetHeader (path : Text) (plan : SheetPlan) : Build Sheet Unit :=
  match plan.header with
  | .null => stop (.noHeader plan.name (fieldPath path Field.header))
  | node => writeHeader (fieldPath path Field.header) node

/-- Writes the data rows of a sheet, if there are any. -/
def writeSheetRows (path : Text) (plan : SheetPlan) : Build Sheet Unit :=
  match plan.rows with
  | .null => pure ()
  | .arr nodes =>
    forEach (fun i node => writeRow (joinIndex (fieldPath path Field.rows) i) node) 0 nodes
  | _ => stop (.notArray (fieldPath path Field.rows))

/-- Fills a fresh sheet. -/
def writeSheet (path : Text) (plan : SheetPlan) : Build Sheet Unit := do
  writeSheetHeader path plan
  writeSheetRows path plan
  report (.builtSheet plan.name (← get).state.rowsWritten)

/-- Adds a sheet and fills it; the sheet stays even if it cannot be filled. -/
def withNewSheet (sheet : Sheet) (fill : Build Sheet α) : Build Workbook α := fun p =>
  match fill ⟨sheet, p.events⟩ with
  | .ok a q => .ok a ⟨p.state.addSheet q.state, q.events⟩
  | .error e q => .error e ⟨p.state.addSheet q.state, q.events⟩

/-- Chooses the title of a sheet. -/
def chooseTitle (path name : Text) : Build Workbook Text := do
  match Title.choose (← get).state.titles name with
  | .ok title => return title
  | .error e => stop (.badTitle name e (fieldPath path Field.name))

/-- Builds a sheet. -/
def buildSheet (path : Text) (node : Json) : Build Workbook SheetPlan := do
  let plan ← ofExcept (SheetPlan.read path node)
  let title ← chooseTitle path plan.name
  withNewSheet (.empty title 1) (writeSheet path plan)
  return plan

/-- Builds a sheet of a workbook node; `i` is its index. -/
def buildSheetAt (path : Text) (i : Nat) (node : Json) : Build Workbook Unit := do
  let _ ← buildSheet (joinIndex path i) node

/-! ### Requests -/

/-- Builds all sheets of the workbook node. -/
def buildWorkbookNode (node : Json) : Build Workbook Unit := do
  let sheets ← ofExcept (readSheets node)
  forEach (buildSheetAt (fieldPath Field.workbook Field.sheets)) 0 sheets

/-- Builds an entry of a request. Keys other than the workbook are reported and passed over. -/
def buildEntry (entry : Text × Json) : Build Workbook Unit :=
  if entry.1 = Field.workbook then buildWorkbookNode entry.2 else report (.skippedKey entry.1)

/-- Builds a request. -/
def buildRequest : Json → Build Workbook Unit
  | .obj entries => do
    forEach (fun _ => buildEntry) 0 entries
    if (← get).state.sheets.isEmpty then stop .workbookMissing
  | _ => stop .requestNotObject

end Build

/-- What came of building: the workbook or the failure, and the events up to there. -/
structure Built where
  outcome : Except Failure Workbook
  events : List Event

/-- Builds the workbook that a request describes. -/
def buildWorkbook (request : Json) : Built :=
  match Build.buildRequest request ⟨.empty, #[]⟩ with
  | .ok _ p => ⟨.ok p.state, p.events.toList⟩
  | .error e p => ⟨.error e, p.events.toList⟩

/-- Why a request has no document. -/
inductive CompileError where
  | failure (e : Failure)
  | save (e : SaveError)
  deriving DecidableEq, Repr

/-- The document that a request describes. -/
def compile (request : Json) : Except CompileError Document :=
  match (buildWorkbook request).outcome with
  | .error e => .error (.failure e)
  | .ok w =>
    match w.save with
    | .ok d => .ok d
    | .error e => .error (.save e)

end Gridwork
