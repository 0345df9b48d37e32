import Gridwork.Field
import Gridwork.Json.Display
import Gridwork.Style.Basic
import Gridwork.Text.Case

/-!
# Reading styles

`Style.read` turns the style object of a request into a `Style` or says what is wrong with it. Every
attribute may be absent or null. Attributes are read in a fixed order, whatever the order of the
keys, and the first fault is the one reported: alignment, colours, font flags, border flags.

A border flag may also be written by a short name. The short name is only looked at if the flag is
not set under its full name.

The wording of some faults shows a value of the request. If a whole number in it is too long to be
written, the fault has no wording (`StyleError.message?`), and what is raised in its place is the
error of writing the number.
-/

namespace Gridwork

/-- What can be wrong with a style. `path` is where the style or its part lies in the request. -/
inductive StyleError where
  | notObject (path : Text)
  | badAlignment (value : Json) (allowed : List Text) (path : Text)
  | colorNotObject (path : Text)
  | missingChannel (channel path : Text)
  | channelNotInteger (channel path : Text)
  | channelOutOfRange (channel : Text) (value : Int) (path : Text)
  | flagNotBoolean (path flag : Text)
  deriving DecidableEq, Repr

namespace StyleError

/-- The wording of a fault, if it has one. -/
def message? : StyleError → Option Text
  | .notObject path => some ("Field \"" ++ path ++ "\" must be an object")
  | .badAlignment value allowed path =>
    value.display?.map fun shown =>
      "Invalid alignment \"" ++ shown ++ "\" at " ++ path ++ ". Use one of ["
        ++ Text.intercalate ", " allowed ++ "]"
  | .colorNotObject path =>
    some ("Field \"" ++ path ++ "\" must be an object with R, G and B")
  | .missingChannel channel path =>
    some ("Channel \"" ++ channel ++ "\" missing in color \"" ++ path ++ "\"")
  | .channelNotInteger channel path =>
    some ("Channel \"" ++ channel ++ "\" in \"" ++ path ++ "\" must be an integer (0-255)")
  | .channelOutOfRange channel value path =>
    (Whole.text? value).map fun shown : String =>
      "Channel \"" ++ channel ++ "\" in \"" ++ path ++ "\" out of range 0-255: " ++ shown
  | .flagNotBoolean path flag =>
    some ("Field \"" ++ path ++ "." ++ flag ++ "\" must be a boolean (true/false)")

/-- Whether a fault has a wording. -/
def isWorded (e : StyleError) : Bool := e.message?.isSome

/-- The field that a fault is reported for. -/
def field : StyleError → Text
  | .notObject path => path
  | .badAlignment _ _ path => path
  | .colorNotObject path => path
  | .missingChannel _ path => path
  | .channelNotInteger _ path => path
  | .channelOutOfRange _ _ path => path
  | .flagNotBoolean _ flag => flag

end StyleError

namespace Style

/-! ### Alignment -/

/-- The words for horizontal alignment. -/
def horizontalWords : List (Text × HorizontalAlignment) :=
  [("LEFT", .left), ("ESQUERDA", .left), ("CENTER", .center), ("CENTRO", .center),
    ("RIGHT", .right), ("DIREITA", .right), ("GENERAL", .general), ("GERAL", .general)]

/-- The words for vertical alignment. -/
def verticalWords : List (Text × VerticalAlignment) :=
  [("TOP", .top), ("CIMA", .top), ("CENTER", .center), ("CENTRO", .center), ("BOTTOM", .bottom),
    ("BAIXO", .bottom)]

/-- Reads an alignment word in any case. -/
def readWord {α : Type} (words : List (Text × α)) (path : Text) :
    Json → Except StyleError (Option α)
  | .null => .ok none
  | .str s =>
    match words.lookup (Text.upper s) with
    | some a => .ok (some a)
    | none => .error (.badAlignment (.str s) (words.map (·.1)) path)
  | v => .error (.badAlignment v (words.map (·.1)) path)

/-- Reads an alignment; what it does not say is general and bottom. -/
def readAlignment (path : Text) :
    Json → Except StyleError (HorizontalAlignment × VerticalAlignment)
  | .null => .ok (.general, .bottom)
  | .obj entries => do
    let value (key : Text) : Json := (Json.Entries.get? entries key).getD .null
    let h ← readWord horizontalWords (path ++ "." ++ Field.horizontal) (value Field.horizontal)
    let v ← readWord verticalWords (path ++ "." ++ Field.vertical) (value Field.vertical)
    return (h.getD .general, v.getD .bottom)
  | _ => .error (.notObject path)

/-! ### Colours -/

/-- Reads a colour channel. -/
def readChannel (entries : Json.Entries) (channel path : Text) : Except StyleError (Fin 256) :=
  match entries.get? channel with
  | none => .error (.missingChannel channel path)
  | some (.int n) =>
    if h : n.toNat < 256 ∧ 0 ≤ n then .ok ⟨n.toNat, h.1⟩
    else .error (.channelOutOfRange channel n path)
  | some _ => .error (.channelNotInteger channel path)

/-- Reads a colour. -/
def readColor (path : Text) : Json → Except StyleError (Option Color)
  | .null => .ok none
  | .obj entries => do
    let red ← readChannel entries Field.red path
    let green ← readChannel entries Field.green path
    let blue ← readChannel entries Field.blue path
    return some ⟨red, green, blue⟩
  | _ => .error (.colorNotObject path)

/-! ### Flags -/

/-- Reads a flag. -/
def readFlag (path name : Text) : Json → Except StyleError (Option Bool)
  | .null => .ok none
  | .bool b => .ok (some b)
  | _ => .error (.flagNotBoolean path name)

/-- Reads a border flag under its full name and, if that does not set it, under its short name. -/
def readBorderFlag (entries : Json.Entries) (path name short : Text) :
    Except StyleError Bool := do
  match ← readFlag path name (entries.field name) with
  | some true => return true
  | _ => return (← readFlag path short ((entries.get? short).getD .null)).getD false

/-- Reads the seven border flags. -/
def readBorders (entries : Json.Entries) (path : Text) : Except StyleError Borders := do
  let all ← readBorderFlag entries path Field.borderAll "all"
  let vertical ← readBorderFlag entries path Field.borderVertical Field.vertical
  let horizontal ← readBorderFlag entries path Field.borderHorizontal Field.horizontal
  let left ← readBorderFlag entries path Field.borderLeft "left"
  let right ← readBorderFlag entries path Field.borderRight "right"
  let top ← readBorderFlag entries path Field.borderTop "top"
  let bottom ← readBorderFlag entries path Field.borderBottom "bottom"
  return Borders.ofFlags ⟨all, vertical, horizontal, left, right, top, bottom⟩

/-! ### Styles -/

/-- Reads a style, which lies at `path` in the request. -/
def read (path : Text) : Json → Except StyleError Style
  | .obj entries => do
    let part (name : Text) : Json := Json.Entries.field entries name
    let (horizontal, vertical) ←
      readAlignment (path ++ "." ++ Field.alignment) (part Field.alignment)
    let textColor ← readColor (path ++ "." ++ Field.textColor) (part Field.textColor)
    let fillColor ← readColor (path ++ "." ++ Field.fillColor) (part Field.fillColor)
    let bold ← readFlag path Field.bold (part Field.bold)
    let italic ← readFlag path Field.italic (part Field.italic)
    let underline ← readFlag path Field.underline (part Field.underline)
    let borders ← readBorders entries path
    return ⟨some horizontal, some vertical, textColor, fillColor, bold, italic, underline, borders⟩
  | _ => .error (.notObject path)

end Style

end Gridwork
