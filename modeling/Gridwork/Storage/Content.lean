import Gridwork.Text.LineEnd
import Gridwork.Workbook.Package

/-!
# Contents of files

A file holds octets or a saved workbook. A saved workbook is a binary format and is never taken for
text.
-/

namespace Gridwork

/-- What a file holds. -/
inductive FileContent where
  | octets (bytes : List UInt8)
  | workbook (d : Document)
  deriving DecidableEq, Repr

namespace FileContent

/-- The number of octets of a file. -/
def size : FileContent → Nat
  | .octets bytes => bytes.length
  | .workbook d => d.encode.length

/-- The text of a file in UTF-8, every line end being a line feed. -/
def text? : FileContent → Option (List Char)
  | .octets bytes =>
    match Text.Utf8.decode bytes with
    | .ok cs => some (Text.unifyLineEnds cs)
    | .error _ => none
  | .workbook _ => none

end FileContent

end Gridwork
