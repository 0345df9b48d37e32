import Gridwork.Text.Basic
import Gridwork.Text.Hex
import Gridwork.Text.Printable

/-!
# Quoted text

Messages show a text between quotes, with escapes for whatever would not show: single quotes,
unless the text holds a single quote and no double quote. No half of a pair is left, so a quoted
text is a string. `asciiOnly` escapes also what shows but is not ASCII; `printed` escapes nothing
but the halves, which no stream takes.
-/

namespace Gridwork.Text

/-- The quote that encloses a text. -/
def quoteFor (cs : List CodePoint) : Char :=
  if cs.contains '\'' && !cs.contains '"' then '"' else '\''

/-- The escape of a code point by its number. -/
def numberedEscape (n : Nat) : List Char :=
  if n < 0x100 then '\\' :: 'x' :: hexDigits 2 n
  else if n < 0x10000 then '\\' :: 'u' :: hexDigits 4 n
  else '\\' :: 'U' :: hexDigits 8 n

/-- A code point between quotes of the given kind. -/
def quotedPoint (quote : Char) : CodePoint → List Char
  | .char c =>
    if c = quote ∨ c = '\\' then ['\\', c]
    else if c = '\t' then ['\\', 't']
    else if c = '\n' then ['\\', 'n']
    else if c = '\r' then ['\\', 'r']
    else if isPrintable c then [c]
    else numberedEscape c.toNat
  | half => numberedEscape half.toNat

/-- A text between quotes. -/
def quoted (t : Text) : String :=
  let quote := quoteFor t.toList
  String.ofList (quote :: (t.toList.flatMap (quotedPoint quote) ++ [quote]))

/-- A text with an escape for every code point that is not ASCII. -/
def asciiOnly (t : Text) : Text :=
  ⟨t.toList.flatMap fun c =>
    if c.toNat < 0x80 then [c] else (numberedEscape c.toNat).map .char⟩

/-- A text as it is printed. -/
def printed (t : Text) : String :=
  String.ofList (t.toList.flatMap fun
    | .char c => [c]
    | half => numberedEscape half.toNat)

end Gridwork.Text
