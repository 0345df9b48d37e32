import Gridwork.Json.Value

/-!
# The field vocabulary of workbook descriptions

A workbook is described by a JSON object with fields of fixed names. Every field has one canonical
name, which is English; some also answer to an older Portuguese name. `Entries.field?` reads a field
under whichever spelling is present, the canonical one first.

Below `header` and `rows` lie column labels and data rows, whose keys belong to the caller and are
not part of the vocabulary.
-/

namespace Gridwork

namespace Field

/-! ### Canonical names -/

def workbook : Text := "workbook"
def name : Text := "name"
def sheets : Text := "sheets"
def header : Text := "header"
def columns : Text := "columns"
def rows : Text := "rows"
def style : Text := "style"
def alignment : Text := "alignment"
def horizontal : Text := "horizontal"
def vertical : Text := "vertical"
def textColor : Text := "textColor"
def fillColor : Text := "fillColor"
def bold : Text := "bold"
def italic : Text := "italic"
def underline : Text := "underline"
def borderAll : Text := "borderAll"
def borderVertical : Text := "borderVertical"
def borderHorizontal : Text := "borderHorizontal"
def borderLeft : Text := "borderLeft"
def borderRight : Text := "borderRight"
def borderTop : Text := "borderTop"
def borderBottom : Text := "borderBottom"
def red : Text := "R"
def green : Text := "G"
def blue : Text := "B"

/-- All canonical names. -/
def canonicalNames : List Text :=
  [workbook, name, sheets, header, columns, rows, style, alignment, horizontal, vertical, textColor,
    fillColor, bold, italic, underline, borderAll, borderVertical, borderHorizontal, borderLeft,
    borderRight, borderTop, borderBottom, red, green, blue]

/-! ### Other spellings -/

/-- The older names, each with the canonical name that it stands for. -/
def aliases : List (Text × Text) :=
  [("nomeWorkbook", name), ("nomeAba", name), ("abas", sheets), ("cabecalho", header),
    ("campos", columns), ("dados", rows), ("estilo", style), ("alinhamento", alignment),
    ("corTexto", textColor), ("corFundo", fillColor), ("negrito", bold), ("italico", italic),
    ("sublinhado", underline), ("bordaTotal", borderAll), ("bordaVertical", borderVertical),
    ("bordaHorizontal", borderHorizontal), ("bordaEsquerda", borderLeft),
    ("bordaDireita", borderRight), ("bordaCima", borderTop), ("bordaBaixo", borderBottom)]

/-- The short names of the border flags. Inside a style they are flags; inside an alignment
`horizontal` and `vertical` are alignment words. -/
def borderShortNames : List Text :=
  ["all", vertical, horizontal, "left", "right", "top", "bottom"]

/-- The canonical name that a key stands for; a key outside the vocabulary stands for itself. -/
def canonical (key : Text) : Text := (aliases.lookup key).getD key

/-- Every spelling of a canonical name, the name itself first. -/
def spellings (canonicalName : Text) : List Text :=
  canonicalName :: (aliases.filter (·.2 == canonicalName)).map (·.1)

/-! ### Classes of keys -/

/-- Whether a key belongs to the vocabulary. -/
def isAllowed (key : Text) : Bool :=
  canonicalNames.contains key || aliases.any (·.1 == key) || borderShortNames.contains key

/-- Whether the keys below this key belong to the caller. -/
def isBusinessData (key : Text) : Bool :=
  key == header || key == rows || key == "cabecalho" || key == "dados"

/-- Whether a key of a data row is its style rather than a column. -/
def isStyle (key : Text) : Bool := key == style || key == "estilo"

end Field

namespace Json.Entries

/-- The value of a field under the first of its spellings that is present. -/
def field? (entries : Entries) (canonicalName : Text) : Option Json :=
  (Field.spellings canonicalName).findSome? entries.get?

/-- The value of a field, null if it is absent. -/
def field (entries : Entries) (canonicalName : Text) : Json :=
  (entries.field? canonicalName).getD .null

/-- Whether a field is present under any spelling. -/
def hasField (entries : Entries) (canonicalName : Text) : Bool :=
  (entries.field? canonicalName).isSome

end Json.Entries

end Gridwork
