import Gridwork.Number.Significant
import Gridwork.Workbook.Basic

/-!
# Saved workbooks

A `Document` is what the file of a workbook says: for every sheet its title and, for every cell that
holds a value or is styled, a reference such as `AB12`, a type, a text and an appearance. Numbers
are written with sixteen significant digits.

Not every workbook can be saved. It needs a sheet, no cell may lie beyond the last column that a
reference can name, and whole numbers must fit a double.
-/

namespace Gridwork

/-- Why a workbook cannot be saved. -/
inductive SaveError where
  | noSheets
  | tooManyColumns
  | numberTooLarge
  deriving DecidableEq, Repr

/-- The type of a saved cell. -/
inductive SavedKind where
  | number
  | bool
  | text
  deriving DecidableEq, Repr

/-- A cell in the file. An empty text is not written. -/
structure SavedCell where
  reference : String
  kind : SavedKind
  text : Option Text
  appearance : Option Appearance
  deriving DecidableEq, Repr

/-- A sheet in the file. -/
structure SavedSheet where
  title : Text
  cells : List SavedCell
  deriving DecidableEq, Repr

/-- What the file of a workbook says. -/
structure Document where
  sheets : List SavedSheet
  deriving DecidableEq, Repr

namespace Document

/-- The largest number of columns of a saved sheet. -/
def maxColumn : Nat := 18278

/-- The letters of a column, with at most `places` of them. -/
def columnLetters (places : Nat) (column : Nat) : List Char :=
  match places with
  | 0 => []
  | places + 1 =>
    if column = 0 then []
    else columnLetters places ((column - 1) / 26) ++ [Char.ofNat (65 + (column - 1) % 26)]

/-- The reference of a cell: its column in letters and its row in digits. -/
def reference (row column : Nat) : String :=
  String.ofList (columnLetters 3 column) ++ toString row

example : (reference 1 1, reference 12 28, reference 3 18278) = ("A1", "AB12", "ZZZ3") := by decide

/-- A text in the file, `none` if it is empty. -/
def savedText (s : Text) : Option Text := if s.isEmpty then none else some s

/-- The type and the text of a content, `none` if there is no value. -/
def savedContent : Content → Except SaveError (Option (SavedKind × Option Text))
  | .int n =>
    match Binary64.ofInt? n with
    | some x => .ok (some (.number, some x.significantText))
    | none => .error .numberTooLarge
  | .float x => .ok (some (.number, some x.significantText))
  | .bool b => .ok (some (.bool, some (if b then "1" else "0")))
  | .text s => .ok (some (.text, savedText s))
  | .vacant => .ok none
  | .refused => .ok none

/-- A cell in the file, if it is written at all. -/
def savedCell (c : Cell) : Except SaveError (Option SavedCell) :=
  match savedContent c.content with
  | .ok (some (kind, text)) =>
    .ok (some ⟨reference c.row c.column, kind, text, c.style.map Style.appearance⟩)
  | .ok none => .ok none
  | .error e => .error e

/-- The cells in the file; `done` holds those before, the last one first. -/
def savedCells (done : List SavedCell) : List Cell → Except SaveError (List SavedCell)
  | [] => .ok done.reverse
  | c :: rest =>
    match savedCell c with
    | .ok (some saved) => savedCells (saved :: done) rest
    | .ok none => savedCells done rest
    | .error e => .error e

/-- A sheet in the file. -/
def savedSheet (s : Sheet) : Except SaveError SavedSheet :=
  if s.cells.any fun c => maxColumn < c.column then .error .tooManyColumns
  else (savedCells [] s.cells.toList).map (⟨s.title, ·⟩)

end Document

/-- Saves a workbook. -/
def Workbook.save (w : Workbook) : Except SaveError Document :=
  if w.sheets.isEmpty then .error .noSheets
  else (w.sheets.mapM Document.savedSheet).map Document.mk

end Gridwork
