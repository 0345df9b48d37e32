import Gridwork.Style.Border
import Gridwork.Style.Color

/-!
# Styles

A `Style` is what a request asks of a group of cells; `none` leaves an attribute as it is in every
cell. An `Appearance` is what a cell shows after a style was applied to it.
-/

namespace Gridwork

/-- Where text stands between the left and the right edge. -/
inductive HorizontalAlignment where
  | left
  | center
  | right
  | general
  deriving DecidableEq, Repr

/-- The name of an alignment in a workbook. -/
def HorizontalAlignment.name : HorizontalAlignment → String
  | .left => "left"
  | .center => "center"
  | .right => "right"
  | .general => "general"

/-- Where text stands between the top and the bottom edge. -/
inductive VerticalAlignment where
  | top
  | center
  | bottom
  deriving DecidableEq, Repr

/-- The name of an alignment in a workbook. -/
def VerticalAlignment.name : VerticalAlignment → String
  | .top => "top"
  | .center => "center"
  | .bottom => "bottom"

/-- The visual attributes of a group of cells. -/
structure Style where
  horizontal : Option HorizontalAlignment
  vertical : Option VerticalAlignment
  textColor : Option Color
  fillColor : Option Color
  bold : Option Bool
  italic : Option Bool
  underline : Option Bool
  borders : Borders
  deriving DecidableEq, Repr

/-- What a styled cell shows. Colours are opaque and written with eight hexadecimal digits; a fill
is solid, a line is thin and an underline is single. -/
structure Appearance where
  bold : Bool
  italic : Bool
  underline : Bool
  color : Option String
  fill : Option String
  horizontal : Option HorizontalAlignment
  vertical : Option VerticalAlignment
  borders : Borders
  deriving DecidableEq, Repr

namespace Style

/-- Header cells without a style of their own are bold and nothing else. -/
def headerDefault : Style :=
  ⟨none, none, none, none, some true, none, none, Borders.none⟩

/-- Whether the style fills cells. -/
def hasFill (s : Style) : Bool := s.fillColor.isSome

/-- Whether the style aligns text. -/
def hasAlignment (s : Style) : Bool := s.horizontal.isSome || s.vertical.isSome

/-- Whether the style draws lines. -/
def hasBorder (s : Style) : Bool := s.borders.any

/-- A colour as a cell shows it. -/
def opaqueColor (c : Color) : String := "00" ++ c.hex

/-- What a fresh cell shows after the style was applied to it. -/
def appearance (s : Style) : Appearance where
  bold := s.bold.getD false
  italic := s.italic.getD false
  underline := s.underline.getD false
  color := s.textColor.map opaqueColor
  fill := s.fillColor.map opaqueColor
  horizontal := s.horizontal
  vertical := s.vertical
  borders := s.borders

end Style

end Gridwork
