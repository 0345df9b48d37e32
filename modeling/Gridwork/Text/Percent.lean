import Gridwork.Text.Hex
import Gridwork.Text.Utf8

/-!
# Percent encoding

In a header parameter a text is written in ASCII: letters, digits and five marks stand for
themselves, every other octet of its UTF-8 form is written as `%` and two hexadecimal digits.
Reading takes any text: what is not of the form `%` and two digits stands for itself.
-/

namespace Gridwork.Text.Percent

/-- Whether an octet stands for itself. -/
def isUnreserved (b : UInt8) : Bool :=
  let c := Char.ofNat b.toNat
  b < 0x80 && (c.isAlphanum || "_.-~/".toList.contains c)

/-- The written form of an octet. -/
def encodeOctet (b : UInt8) : List Char :=
  if isUnreserved b then [Char.ofNat b.toNat]
  else '%' :: (hexDigits 2 b.toNat).map Char.toUpper

/-- The written form of a text. -/
def encode (cs : List Char) : List Char := (Utf8.encode cs).flatMap encodeOctet

/-- The octets that a written form stands for. -/
def decodeOctets : List Char → List UInt8
  | '%' :: a :: b :: rest =>
    match hexDigit? a, hexDigit? b with
    | some x, some y => UInt8.ofNat (16 * x + y) :: decodeOctets rest
    | _, _ => '%'.toNat.toUInt8 :: decodeOctets (a :: b :: rest)
  | c :: rest => Utf8.encode [c] ++ decodeOctets rest
  | [] => []

/-- The text that a written form stands for, if its octets are one. -/
def decode? (cs : List Char) : Option (List Char) := (Utf8.decode (decodeOctets cs)).toOption

end Gridwork.Text.Percent
