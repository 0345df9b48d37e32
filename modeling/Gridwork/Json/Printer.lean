import Gridwork.Json.Value
import Gridwork.Number.Shortest

/-!
# Printing JSON trees

One printer serves every text form of a tree: brackets, a comma and a blank between members, a
colon and a blank behind keys. What differs from form to form, the spelling of the leaves, is a
`Spelling`.
-/

namespace Gridwork.Json

/-- How the leaves of a tree are spelt. -/
structure Spelling where
  null : Text
  bool : Bool → Text
  float : Binary64 → Text
  str : Text → List CodePoint

/-- The spelling of a whole number. -/
def intText (n : Int) : List CodePoint := (toString n : Text).toList

mutual

/-- The text of a tree. -/
def print (s : Spelling) : Json → List CodePoint
  | .null => s.null.toList
  | .bool b => (s.bool b).toList
  | .int n => intText n
  | .float x => (s.float x).toList
  | .str t => s.str t
  | .arr items => .char '[' :: (printItems s items ++ [.char ']'])
  | .obj entries => .char '{' :: (printEntries s entries ++ [.char '}'])

/-- The members of an array, from the first on. -/
def printItems (s : Spelling) : List Json → List CodePoint
  | [] => []
  | v :: rest => print s v ++ printMoreItems s rest

/-- The members of an array behind one that has been printed. -/
def printMoreItems (s : Spelling) : List Json → List CodePoint
  | [] => []
  | v :: rest => .char ',' :: .char ' ' :: (print s v ++ printMoreItems s rest)

/-- The entries of an object, from the first on. -/
def printEntries (s : Spelling) : List (Text × Json) → List CodePoint
  | [] => []
  | (k, v) :: rest =>
    s.str k ++ .char ':' :: .char ' ' :: (print s v ++ printMoreEntries s rest)

/-- The entries of an object behind one that has been printed. -/
def printMoreEntries (s : Spelling) : List (Text × Json) → List CodePoint
  | [] => []
  | (k, v) :: rest =>
    .char ',' :: .char ' '
      :: (s.str k ++ .char ':' :: .char ' ' :: (print s v ++ printMoreEntries s rest))

end

end Gridwork.Json
