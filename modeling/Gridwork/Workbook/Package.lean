import Gridwork.Archive
import Gridwork.Workbook.Document

/-!
# Workbook files

`Document.encode` writes a saved workbook as the file that spreadsheet programs open: an archive of
XML parts with one part for each sheet, one that lists the sheets and one for the styles. Every
appearance that occurs becomes one cell format, behind the format of cells without a style.
-/

namespace Gridwork

namespace Package

/-! ### XML -/

/-- A code point of XML text. Control characters that XML cannot hold become question marks, and a
half of a pair is written by its number. -/
def escapePoint : CodePoint → List Char
  | .char c =>
    if c = '&' then "&amp;".toList
    else if c = '<' then "&lt;".toList
    else if c = '>' then "&gt;".toList
    else if c = '"' then "&quot;".toList
    else if c = '\r' then "&#13;".toList
    else if c.toNat < 0x20 ∧ c ≠ '\t' ∧ c ≠ '\n' then ['?']
    else [c]
  | half => ("&#" ++ toString half.toNat ++ ";").toList

/-- XML text. -/
def escape (t : Text) : String := String.ofList (t.toList.flatMap escapePoint)

/-- An attribute. -/
def attr (name : String) (value : Text) : String := " " ++ name ++ "=\"" ++ escape value ++ "\""

/-- An element. -/
def element (name attributes content : String) : String :=
  if content.isEmpty then "<" ++ name ++ attributes ++ "/>"
  else "<" ++ name ++ attributes ++ ">" ++ content ++ "</" ++ name ++ ">"

/-- Elements one after the other. -/
def series {α : Type} (xs : List α) (f : α → String) : String := String.join (xs.map f)

/-- A numbered series. -/
def numbered {α : Type} (xs : List α) : List (Nat × α) := (List.range xs.length).zip xs

/-- A part of the file. -/
def part (name content : String) : Archive.Part :=
  let declaration := "<?xml version=\"1.0\" encoding=\"UTF-8\" standalone=\"yes\"?>\n"
  ⟨name, Text.Utf8.encode (declaration ++ content).toList⟩

/-! ### Names -/

/-- The name of an XML namespace of the format: an address that need not exist. -/
def namespaceName (path : String) : String :=
  String.join ["http:", "//", "schemas.openxmlformats.org", "/", path]

/-- The namespace of sheets, styles and the list of sheets. -/
def mainNamespace := namespaceName "spreadsheetml/2006/main"

/-- The namespace of relations in the list of sheets. -/
def relationNamespace := namespaceName "officeDocument/2006/relationships"

/-- The namespace of lists of relations. -/
def packageRelations := namespaceName "package/2006/relationships"

/-- The namespace of the list of types. -/
def contentTypes := namespaceName "package/2006/content-types"

/-- What the types of the parts of a workbook begin with. -/
def spreadsheetType := "application/vnd.openxmlformats-officedocument.spreadsheetml."

/-- The name of a sheet's part. -/
def sheetPart (i : Nat) : String := "worksheets/sheet" ++ toString (i + 1) ++ ".xml"

/-! ### Styles -/

/-- The appearances that occur in a document, each once. -/
def appearances (d : Document) : List Appearance :=
  (d.sheets.flatMap fun s => s.cells.filterMap (·.appearance)).eraseDups

/-- The font of an appearance. -/
def font (a : Appearance) : String :=
  element "font" "" ((if a.bold then "<b/>" else "") ++ (if a.italic then "<i/>" else "")
    ++ (if a.underline then "<u/>" else "") ++ "<sz val=\"11\"/>"
    ++ (match a.color with
      | some c => element "color" (attr "rgb" c) ""
      | none => "")
    ++ "<name val=\"Calibri\"/>")

/-- The fill of an appearance. -/
def fill (a : Appearance) : String :=
  match a.fill with
  | some c =>
    element "fill" ""
      (element "patternFill" (attr "patternType" "solid")
        (element "fgColor" (attr "rgb" c) ""))
  | none => "<fill><patternFill/></fill>"

/-- One edge of a border. -/
def edge (name : String) (present : Bool) : String :=
  element name (if present then attr "style" "thin" else "") ""

/-- The border of an appearance. -/
def border (a : Appearance) : String :=
  element "border" "" (edge "left" a.borders.left ++ edge "right" a.borders.right
    ++ edge "top" a.borders.top ++ edge "bottom" a.borders.bottom ++ "<diagonal/>")

/-- The cell format of an appearance, whose parts all bear the number `i`. Fills begin with two
reserved ones. -/
def format (i : Nat) (a : Appearance) : String :=
  let n := toString i
  let alignment :=
    (match a.horizontal with
      | some h => attr "horizontal" h.name
      | none => "")
    ++ (match a.vertical with
      | some v => attr "vertical" v.name
      | none => "")
  element "xf" (attr "numFmtId" "0" ++ attr "fontId" n
      ++ attr "fillId" (toString (i + 1)) ++ attr "borderId" n ++ attr "xfId" "0"
      ++ attr "applyFont" "1" ++ attr "applyFill" "1" ++ attr "applyBorder" "1"
      ++ attr "applyAlignment" "1")
    (if alignment.isEmpty then "" else element "alignment" alignment "")

/-- The part of the styles. -/
def styles (looks : List Appearance) : String :=
  let plainFormat := element "xf" (attr "numFmtId" "0" ++ attr "fontId" "0"
    ++ attr "fillId" "0" ++ attr "borderId" "0") ""
  let formats := series (numbered looks) fun (i, a) => format (i + 1) a
  element "styleSheet" (attr "xmlns" mainNamespace)
    (element "fonts" ""
        ("<font><sz val=\"11\"/><name val=\"Calibri\"/></font>" ++ series looks font)
      ++ element "fills" "" ("<fill><patternFill/></fill>"
        ++ "<fill><patternFill patternType=\"gray125\"/></fill>" ++ series looks fill)
      ++ element "borders" ""
        ("<border><left/><right/><top/><bottom/><diagonal/></border>" ++ series looks border)
      ++ element "cellStyleXfs" "" plainFormat ++ element "cellXfs" "" (plainFormat ++ formats))

/-! ### Sheets -/

/-- The value of a cell. -/
def cellValue (c : SavedCell) : String × String :=
  match c.kind, c.text with
  | .text, some s =>
    ("inlineStr", element "is" "" (element "t" (attr "xml:space" "preserve") (escape s)))
  | .text, none => ("inlineStr", "<is><t/></is>")
  | .number, s => ("n", element "v" "" (escape (s.getD "")))
  | .bool, s => ("b", element "v" "" (escape (s.getD "")))

/-- A cell. -/
def cell (looks : List Appearance) (c : SavedCell) : String :=
  let style :=
    match c.appearance with
    | some a => attr "s" (toString (looks.idxOf a + 1))
    | none => ""
  let (kind, value) := cellValue c
  element "c" (attr "r" c.reference ++ style ++ attr "t" kind) value

/-- The cells of a sheet in rows, which are told apart by the digits of the references. -/
def rows (cells : List SavedCell) : List (String × List SavedCell) :=
  let rowOf (c : SavedCell) : String := String.ofList (c.reference.toList.dropWhile Char.isAlpha)
  (cells.splitBy fun a b => rowOf a == rowOf b).filterMap fun row =>
    row.head?.map fun first => (rowOf first, row)

/-- The part of a sheet. -/
def sheet (looks : List Appearance) (s : SavedSheet) : String :=
  element "worksheet" (attr "xmlns" mainNamespace)
    (element "sheetData" "" (series (rows s.cells) fun (n, row) =>
      element "row" (attr "r" n) (series row (cell looks))))

/-! ### The file -/

/-- A relation of a part to another one. -/
def relation (id kind target : String) : String :=
  element "Relationship" (attr "Id" id
    ++ attr "Type" (relationNamespace ++ "/" ++ kind) ++ attr "Target" target) ""

/-- The relations of a part. -/
def relations (content : String) : String :=
  element "Relationships" (attr "xmlns" packageRelations) content

/-- The identifier of a sheet's relation. -/
def sheetId (i : Nat) : String := "rId" ++ toString (i + 1)

/-- The part that lists the sheets. -/
def workbook (d : Document) : String :=
  element "workbook" (attr "xmlns" mainNamespace ++ attr "xmlns:r" relationNamespace)
    (element "sheets" "" (series (numbered d.sheets) fun (i, s) =>
      element "sheet" (attr "name" s.title ++ attr "sheetId" (toString (i + 1))
        ++ attr "r:id" (sheetId i)) ""))

/-- The part that names the type of every part. -/
def types (d : Document) : String :=
  let override (name kind : String) : String :=
    element "Override" (attr "PartName" ("/xl/" ++ name)
      ++ attr "ContentType" (spreadsheetType ++ kind ++ "+xml")) ""
  element "Types" (attr "xmlns" contentTypes)
    (element "Default" (attr "Extension" "rels" ++ attr "ContentType"
        "application/vnd.openxmlformats-package.relationships+xml") ""
      ++ element "Default" (attr "Extension" "xml"
        ++ attr "ContentType" "application/xml") ""
      ++ override "workbook.xml" "sheet.main" ++ override "styles.xml" "styles"
      ++ series (numbered d.sheets) fun (i, _) => override (sheetPart i) "worksheet")

end Package

namespace Document

/-- The octets of the file of a saved workbook. -/
def encode (d : Document) : List UInt8 :=
  let looks := Package.appearances d
  let sheets := (Package.numbered d.sheets).map fun (i, s) =>
    Package.part ("xl/" ++ Package.sheetPart i) (Package.sheet looks s)
  let sheetRelations := Package.series (Package.numbered d.sheets) fun (i, _) =>
    Package.relation (Package.sheetId i) "worksheet" (Package.sheetPart i)
  Archive.encode ([
    Package.part "[Content_Types].xml" (Package.types d),
    Package.part "_rels/.rels"
      (Package.relations (Package.relation "rId1" "officeDocument" "xl/workbook.xml")),
    Package.part "xl/workbook.xml" (Package.workbook d),
    Package.part "xl/_rels/workbook.xml.rels"
      (Package.relations (sheetRelations ++ Package.relation "rIdStyles" "styles" "styles.xml")),
    Package.part "xl/styles.xml" (Package.styles looks)] ++ sheets)

end Document

end Gridwork
