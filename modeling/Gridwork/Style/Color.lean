import Gridwork.Text.Hex

/-!
# Colours

A colour has three channels from 0 to 255 and is written as six hexadecimal digits.
-/

namespace Gridwork

/-- A colour. -/
structure Color where
  red : Fin 256
  green : Fin 256
  blue : Fin 256
  deriving DecidableEq, Repr

namespace Color

/-- A whole number in upper-case hexadecimal digits, at least two characters wide; the sign of a
negative number counts as one. -/
def channelHex (n : Int) : String :=
  if n < 0 then "-" ++ Text.hexUpper 1 n.natAbs else Text.hexUpper 2 n.natAbs

/-- A series of channels in hexadecimal digits. -/
def channelsHex (channels : List Int) : String := String.join (channels.map channelHex)

/-- The six hexadecimal digits of a colour. -/
def hex (c : Color) : String :=
  channelsHex [(c.red.val : Int), (c.green.val : Int), (c.blue.val : Int)]

example : (Color.mk 31 78 121).hex = "1F4E79" := by decide

end Color

end Gridwork
