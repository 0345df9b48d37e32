import Gridwork.Json.Value

/-!
# Depth

A tree is as deep as arrays and objects lie inside each other in it. Going down into one of them
takes room, and a platform may have room for so many levels only. How many they are differs with
what is done: a `Room` tells it for reading a text, for validating a request and for making a
workbook of one.
-/

namespace Gridwork

namespace Json

mutual

/-- How deeply arrays and objects lie inside each other. -/
def depth : Json → Nat
  | .arr items => depthOfItems items + 1
  | .obj entries => depthOfEntries entries + 1
  | _ => 0

/-- The depth of the deepest member of an array. -/
def depthOfItems : List Json → Nat
  | [] => 0
  | v :: rest => max (depth v) (depthOfItems rest)

/-- The depth of the deepest value of an object. -/
def depthOfEntries : List (Text × Json) → Nat
  | [] => 0
  | (_, v) :: rest => max (depth v) (depthOfEntries rest)

end

/-- Whether a tree is no deeper than a bound, if there is one. -/
def fits (bound : Option Nat) (v : Json) : Bool := bound.all (v.depth ≤ ·)

@[simp] theorem fits_none (v : Json) : v.fits none = true := rfl

end Json

/-- How many levels there is room for, where there is not room for any number of them. -/
structure Room where
  reading : Option Nat
  checking : Option Nat
  generating : Option Nat
  deriving DecidableEq, Repr

/-- Room for any number of levels. -/
def Room.unbounded : Room := ⟨none, none, none⟩

end Gridwork
