import Gridwork.Text.Percent

/-!
# Download headers

A workbook is delivered as an attachment. The header names the file twice: in plain ASCII for old
clients, and percent-encoded for the others.
-/

namespace Gridwork.Disposition

/-- The ASCII stand-in for a character of a file name. -/
def asciiChar (c : Char) : Char :=
  if c = '"' then '_' else if c.toNat < 0x80 then c else '?'

/-- The value of the Content-Disposition header for a file name. -/
def attachment (filename : String) : String :=
  "attachment; filename=\"" ++ String.ofList (filename.toList.map asciiChar)
    ++ "\"; filename*=UTF-8''" ++ String.ofList (Text.Percent.encode filename.toList)

end Gridwork.Disposition
