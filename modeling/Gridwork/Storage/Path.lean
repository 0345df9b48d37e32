import Gridwork.Text.Split

/-!
# Paths

A path is read from its text: repeated and trailing slashes and the parts `.` are dropped, the parts
`..` are kept. One slash at the start makes it absolute, and so do two or more, where exactly two
are a root of their own.
-/

namespace Gridwork

/-- Where a path begins: at the working directory or at a root, written with one or two slashes. -/
inductive Anchor where
  | here
  | root
  | doubleRoot
  deriving DecidableEq, Repr

/-- A path. -/
structure Path where
  anchor : Anchor
  parts : List String
  deriving DecidableEq, Repr

namespace Path

/-- The anchor that a text begins with. -/
def anchorOf : List Char → Anchor
  | '/' :: '/' :: '/' :: _ => .root
  | '/' :: '/' :: _ => .doubleRoot
  | '/' :: _ => .root
  | _ => .here

/-- Whether a piece is a part of the path. -/
def isPart (piece : List Char) : Bool := !piece.isEmpty && piece != ['.']

/-- The path that a text names. -/
def ofString (s : String) : Path :=
  ⟨anchorOf s.toList, ((Text.splitSlash s.toList).filter isPart).map String.ofList⟩

/-- The text of an anchor. -/
def anchorText : Anchor → String
  | .here => ""
  | .root => "/"
  | .doubleRoot => "//"

/-- The text of a path. -/
def text (p : Path) : String :=
  if p.anchor = .here ∧ p.parts = [] then "."
  else anchorText p.anchor ++ "/".intercalate p.parts

/-- A path within another one; an absolute path stands by itself. -/
def join (p q : Path) : Path :=
  if q.anchor = .here then ⟨p.anchor, p.parts ++ q.parts⟩ else q

/-- The path that a text names within another path. -/
def child (p : Path) (s : String) : Path := p.join (ofString s)

/-- The path without its last part. -/
def parent (p : Path) : Path := ⟨p.anchor, p.parts.dropLast⟩

example : (ofString "./a//b/./c/").text = "a/b/c" ∧ (ofString "").text = "." := by decide

end Path

end Gridwork
