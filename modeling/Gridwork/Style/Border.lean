/-!
# Borders

A cell carries a thin line on some of its four edges. Requests set the edges by seven flags, which
`Borders.ofFlags` combines: one for all edges, which makes the others irrelevant, two for opposite
pairs, and one for each edge.
-/

namespace Gridwork

/-- The edges of a cell that carry a line. -/
structure Borders where
  left : Bool
  right : Bool
  top : Bool
  bottom : Bool
  deriving DecidableEq, Repr

/-- The flags by which a request sets the edges. -/
structure BorderFlags where
  all : Bool
  vertical : Bool
  horizontal : Bool
  left : Bool
  right : Bool
  top : Bool
  bottom : Bool
  deriving DecidableEq, Repr

namespace Borders

/-- No line at all. -/
def none : Borders := ⟨false, false, false, false⟩

/-- Lines on all four edges. -/
def full : Borders := ⟨true, true, true, true⟩

/-- Whether any edge carries a line. -/
def any (b : Borders) : Bool := b.left || b.right || b.top || b.bottom

/-- The edges that a set of flags selects. -/
def ofFlags (f : BorderFlags) : Borders :=
  if f.all then full
  else
    ⟨f.vertical || f.left, f.vertical || f.right, f.horizontal || f.top, f.horizontal || f.bottom⟩

end Borders

end Gridwork
