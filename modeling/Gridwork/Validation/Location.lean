import Gridwork.Text.Basic

/-!
# Places in a request

A `Location` is the way from the root of a request to a node. Its text joins keys with points and
puts indices in brackets; a key that follows nothing stands without a point.
-/

namespace Gridwork

/-- One step down: to the value of a key or to a member of an array. -/
inductive Step where
  | key (k : Text)
  | index (i : Nat)
  deriving DecidableEq, Repr

/-- The way from the root to a node, the last step first. -/
abbrev Location := List Step

/-- A path followed by a key. -/
def joinKey (path key : Text) : Text :=
  if path.isEmpty then key else path ++ "." ++ key

/-- A path followed by an index. -/
def joinIndex (path : Text) (i : Nat) : Text := path ++ "[" ++ toString i ++ "]"

/-- A path followed by a step. -/
def Step.extend (path : Text) : Step → Text
  | .key k => joinKey path k
  | .index i => joinIndex path i

/-- The text of a location. -/
def Location.text : Location → Text
  | [] => ""
  | step :: outer => step.extend (Location.text outer)

end Gridwork
