import Gridwork.Json.Printer
import Gridwork.Text.Hex

/-!
# JSON text

`write` gives the JSON text of a tree in ASCII: every other code point is escaped, in two halves if
it lies outside the basic plane, so a text never holds a line break.
-/

namespace Gridwork.Json

/-- An escape by code unit. -/
def unitEscape (n : Nat) : List CodePoint :=
  .char '\\' :: .char 'u' :: (Text.hexDigits 4 n).map .char

/-- A code point within a JSON string. -/
def escapePoint (c : CodePoint) : List CodePoint :=
  if c = '"' then ['\\', '"']
  else if c = '\\' then ['\\', '\\']
  else if c = '\n' then ['\\', 'n']
  else if c = '\r' then ['\\', 'r']
  else if c = '\t' then ['\\', 't']
  else if c = '\x0c' then ['\\', 'f']
  else if c = '\x08' then ['\\', 'b']
  else if 0x20 ≤ c.toNat ∧ c.toNat ≤ 0x7e then [c]
  else if c.toNat < 0x10000 then unitEscape c.toNat
  else
    let n := c.toNat - 0x10000
    unitEscape (0xD800 + n / 0x400) ++ unitEscape (0xDC00 + n % 0x400)

/-- A JSON string. -/
def stringLiteral (s : Text) : List CodePoint :=
  .char '"' :: (s.toList.flatMap escapePoint ++ [.char '"'])

/-- The text of a double in JSON; the numbers that JSON lacks are named. -/
def floatLiteral (x : Binary64) : String :=
  if x.isNaN then "NaN"
  else if x.isFinite then x.text
  else if x.isNegative then "-Infinity"
  else "Infinity"

/-- The spelling of JSON text. -/
def Spelling.interchange : Spelling where
  null := "null"
  bool b := if b then "true" else "false"
  float x := floatLiteral x
  str := stringLiteral

/-- The JSON text of a tree. -/
def write (v : Json) : Text := ⟨print .interchange v⟩

end Gridwork.Json
