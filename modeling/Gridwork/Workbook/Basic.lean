import Gridwork.Workbook.Cell
import Gridwork.Workbook.Title

/-!
# Workbooks

A workbook is a series of sheets. Every sheet has a cursor, the row that is reserved next; cells are
only ever written into a row that has just been reserved, from the first column on, so the cells of
a sheet come in the order of rows and columns and none is written twice.
-/

namespace Gridwork

/-- A sheet and its row cursor. -/
structure Sheet where
  title : Text
  nextRow : Int
  cells : Array Cell
  deriving Repr

namespace Sheet

/-- A sheet without cells. -/
def empty (title : Text) (nextRow : Int) : Sheet := ⟨title, nextRow, #[]⟩

/-- The number of rows reserved so far, counted from the first row of the sheet. -/
def rowsWritten (s : Sheet) : Int := s.nextRow - 1

/-- Writes a cell behind all others. -/
def push (s : Sheet) (c : Cell) : Sheet := { s with cells := s.cells.push c }

/-- Reserves the next row. -/
def reserveRow (s : Sheet) : Sheet := { s with nextRow := s.nextRow + 1 }

@[simp] theorem push_cells (s : Sheet) (c : Cell) :
    (s.push c).cells.toList = s.cells.toList ++ [c] := by simp [push]

@[simp] theorem push_title (s : Sheet) (c : Cell) : (s.push c).title = s.title := rfl

@[simp] theorem push_nextRow (s : Sheet) (c : Cell) : (s.push c).nextRow = s.nextRow := rfl

@[simp] theorem reserveRow_nextRow (s : Sheet) : s.reserveRow.nextRow = s.nextRow + 1 := rfl

@[simp] theorem reserveRow_cells (s : Sheet) : s.reserveRow.cells = s.cells := rfl

@[simp] theorem reserveRow_title (s : Sheet) : s.reserveRow.title = s.title := rfl

end Sheet

/-- A series of sheets. -/
structure Workbook where
  sheets : List Sheet
  deriving Repr

namespace Workbook

/-- A workbook without sheets. -/
def empty : Workbook := ⟨[]⟩

/-- The titles of the sheets. -/
def titles (w : Workbook) : List Text := w.sheets.map (·.title)

/-- Adds a sheet behind all others. -/
def addSheet (w : Workbook) (s : Sheet) : Workbook := ⟨w.sheets ++ [s]⟩

@[simp] theorem titles_empty : empty.titles = [] := rfl

@[simp] theorem titles_addSheet (w : Workbook) (s : Sheet) :
    (w.addSheet s).titles = w.titles ++ [s.title] := by simp [addSheet, titles]

end Workbook

end Gridwork
