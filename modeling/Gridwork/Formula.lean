import Gridwork.Json.Value

/-!
# Formula nodes

An object with the entries `type: "formula"` and a text `expression` is a formula node, wherever it
lies in a request. `Json.sanitizeFormulas` cleans the expression of every formula node that does not
lie inside another one and leaves all else as it is.

Cleaning is a filter on characters, not a grammar of formulas: one leading equals sign goes, and so
does every character that formulas do not need.
-/

namespace Gridwork

namespace Formula

/-- Whether a character may stand in a clean expression. -/
def isAllowedChar (c : Char) : Bool :=
  c.isAlphanum || "()+-*/^%,. ".toList.contains c

/-- The code points of a clean expression. -/
def cleanChars (cs : List CodePoint) : List CodePoint :=
  let body :=
    match cs with
    | .char '=' :: rest => rest
    | cs => cs
  body.filter (·.is isAllowedChar)

/-- Drops one leading equals sign and every character that is not allowed. -/
def clean (expression : Text) : Text := ⟨cleanChars expression.toList⟩

/-- The key of the expression. -/
def expressionKey : Text := "expression"

/-- The expression of a formula node. -/
def expression? (entries : Json.Entries) : Option Text :=
  match entries.get? "type", entries.get? expressionKey with
  | some (.str type), some (.str e) => if type = "formula" then some e else none
  | _, _ => none

end Formula

namespace Json

/-- Whether a node is a formula node. -/
def isFormula : Json → Bool
  | .obj entries => (Formula.expression? entries).isSome
  | _ => false

/-- The entries of a formula node with a new expression. -/
def Entries.withExpression (e : Text) (entries : Entries) : Entries :=
  entries.map fun entry => if entry.1 = Formula.expressionKey then (entry.1, .str e) else entry

mutual

/-- Cleans the expressions of all formula nodes that lie in no other one. -/
def sanitizeFormulas : Json → Json
  | .obj entries =>
    match Formula.expression? entries with
    | some e => .obj (Entries.withExpression (Formula.clean e) entries)
    | none => .obj (sanitizeEntries entries)
  | .arr items => .arr (sanitizeItems items)
  | v => v

/-- Cleans the formula nodes of an array. -/
def sanitizeItems : List Json → List Json
  | [] => []
  | v :: rest => sanitizeFormulas v :: sanitizeItems rest

/-- Cleans the formula nodes of an object. -/
def sanitizeEntries : List (Text × Json) → List (Text × Json)
  | [] => []
  | (k, v) :: rest => (k, sanitizeFormulas v) :: sanitizeEntries rest

end

end Json

end Gridwork
