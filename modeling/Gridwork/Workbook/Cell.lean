import Gridwork.Number.Binary64
import Gridwork.Style.Basic
import Gridwork.Text.Basic

/-!
# Cells

A cell holds a number, a truth value or a text, and may be styled. A text is cut to the length that
a cell can hold before it is examined; if a control character is left in it, it cannot be written
and the cell stays without a value.
-/

namespace Gridwork

/-- What a cell holds. A cell whose value could not be written is `vacant`, or `refused` if it was a
text. -/
inductive Content where
  | int (n : Int)
  | float (x : Binary64)
  | bool (b : Bool)
  | text (s : Text)
  | vacant
  | refused
  deriving DecidableEq, Repr

/-- The type letter of a cell: number, truth value or text. -/
def Content.kind : Content → String
  | .int _ => "n"
  | .float _ => "n"
  | .bool _ => "b"
  | .text _ => "s"
  | .vacant => "n"
  | .refused => "s"

/-- A cell of a sheet; rows and columns count from one. -/
structure Cell where
  row : Nat
  column : Nat
  content : Content
  style : Option Style
  deriving DecidableEq, Repr

namespace Cell

/-- The number of code points that a cell can hold. -/
def maxTextLength : Nat := 32767

/-- The number of rows of a sheet. -/
def maxRow : Nat := 1048576

/-- Whether a code point cannot be written: the control characters but tabulator and line ends. -/
def isIllegalChar (c : CodePoint) : Bool :=
  c.toNat < 0x20 && c != '\t' && c != '\n' && c != '\r'

/-- The content of a text cell, `none` if the text cannot be written. -/
def textContent? (s : Text) : Option Content :=
  let kept := s.toList.take maxTextLength
  if kept.any isIllegalChar then none else some (.text ⟨kept⟩)

end Cell

end Gridwork
