import Gridwork.Text.Hex
import Gridwork.Text.Utf8

/-!
# Text of undeclared encoding

A message body names no encoding. `Encoding.detect` infers it from a byte order mark or, failing
that, from which of the first octets are zero, and `decodeAny` reads the octets accordingly.
Halves of surrogate pairs pass.
-/

namespace Gridwork.Text

/-- The order of the octets within one code unit. -/
inductive ByteOrder where
  | little
  | big
  deriving DecidableEq, Repr

/-- An encoding, and how many octets of byte order mark precede the text. -/
inductive Encoding where
  | utf8 (mark : Nat)
  | utf16 (order : ByteOrder) (mark : Nat)
  | utf32 (order : ByteOrder) (mark : Nat)
  deriving DecidableEq, Repr

namespace Encoding

/-- The name of an encoding in messages. -/
def name : Encoding → String
  | .utf8 _ => "utf-8"
  | .utf16 .little _ => "utf-16-le"
  | .utf16 .big _ => "utf-16-be"
  | .utf32 .little _ => "utf-32-le"
  | .utf32 .big _ => "utf-32-be"

/-- The encoding that a byte order mark announces. -/
def ofMark : List UInt8 → Option Encoding
  | 0x00 :: 0x00 :: 0xFE :: 0xFF :: _ => some (.utf32 .big 4)
  | 0xFF :: 0xFE :: 0x00 :: 0x00 :: _ => some (.utf32 .little 4)
  | 0xFE :: 0xFF :: _ => some (.utf16 .big 2)
  | 0xFF :: 0xFE :: _ => some (.utf16 .little 2)
  | 0xEF :: 0xBB :: 0xBF :: _ => some (.utf8 3)
  | _ => none

/-- The encoding that the zero octets at the start suggest: the first character of the text is
taken to be ASCII. -/
def ofZeros : List UInt8 → Encoding
  | [a, b] =>
    if a == 0 then .utf16 .big 0 else if b == 0 then .utf16 .little 0 else .utf8 0
  | a :: b :: c :: d :: _ =>
    if a == 0 then (if b == 0 then .utf32 .big 0 else .utf16 .big 0)
    else if b == 0 then (if c == 0 && d == 0 then .utf32 .little 0 else .utf16 .little 0)
    else .utf8 0
  | _ => .utf8 0

/-- The encoding of a body. -/
def detect (bytes : List UInt8) : Encoding := (ofMark bytes).getD (ofZeros bytes)

end Encoding

/-- The number that two octets spell. -/
def ByteOrder.unit16 (order : ByteOrder) (a b : UInt8) : Nat :=
  match order with
  | .little => a.toNat + 0x100 * b.toNat
  | .big => 0x100 * a.toNat + b.toNat

/-- The number that four octets spell. -/
def ByteOrder.unit32 (order : ByteOrder) (a b c d : UInt8) : Nat :=
  match order with
  | .little => order.unit16 a b + 0x10000 * order.unit16 c d
  | .big => 0x10000 * order.unit16 a b + order.unit16 c d

/-- Reads UTF-16 from position `start` on; `done` holds the code points read before, the last one
first. -/
def decode16 (order : ByteOrder) (start : Nat) (done : List CodePoint) :
    List UInt8 → Except BadOctets (List CodePoint)
  | [] => .ok done.reverse
  | [_] => .error ⟨start, start + 1, .truncated⟩
  | [a, b] => .ok (CodePoint.ofNat (order.unit16 a b) :: done).reverse
  | [_, _, _] => .error ⟨start + 2, start + 3, .truncated⟩
  | a :: b :: c :: d :: rest =>
    match CodePoint.ofNat (order.unit16 a b), CodePoint.ofNat (order.unit16 c d) with
    | .high i, .low j => decode16 order (start + 4) (.char (CodePoint.paired i j) :: done) rest
    | unit, _ => decode16 order (start + 2) (unit :: done) (c :: d :: rest)

/-- Reads UTF-32 from position `start` on; `done` holds the code points read before, the last one
first. -/
def decode32 (order : ByteOrder) (start : Nat) (done : List CodePoint) :
    List UInt8 → Except BadOctets (List CodePoint)
  | [] => .ok done.reverse
  | a :: b :: c :: d :: rest =>
    let point := order.unit32 a b c d
    if point < 0x110000 then decode32 order (start + 4) (.ofNat point :: done) rest
    else .error ⟨start, start + 4, .outOfRange⟩
  | bytes => .error ⟨start, start + bytes.length, .truncated⟩

/-- Reads octets in a given encoding. Positions count from the first octet, except that the mark
of UTF-8 is not counted. -/
def Encoding.decode (encoding : Encoding) (bytes : List UInt8) :
    Except BadOctets (List CodePoint) :=
  match encoding with
  | .utf8 mark => Utf8.decodeFrom true 0 [] (bytes.drop mark)
  | .utf16 order mark => decode16 order mark [] (bytes.drop mark)
  | .utf32 order mark => decode32 order mark [] (bytes.drop mark)

/-- Octets that could not be read, with what is needed to report them. -/
structure DecodeError where
  encoding : Encoding
  octets : List UInt8
  bad : BadOctets
  deriving DecidableEq, Repr

/-- The report of octets that could not be read: one octet is shown, several are located. -/
def DecodeError.message (e : DecodeError) : String :=
  let place :=
    if e.bad.stop = e.bad.start + 1 then
      let octet := (e.octets[e.bad.start]?).getD 0
      "byte 0x" ++ hexLower 2 octet.toNat ++ " in position " ++ toString e.bad.start
    else "bytes in position " ++ toString e.bad.start ++ "-" ++ toString (e.bad.stop - 1)
  "'" ++ e.encoding.name ++ "' codec can't decode " ++ place ++ ": " ++ e.bad.fault.message

/-- Reads octets of undeclared encoding. -/
def decodeAny (bytes : List UInt8) : Except DecodeError (List CodePoint) :=
  let encoding := Encoding.detect bytes
  match encoding.decode bytes with
  | .ok cs => .ok cs
  | .error bad =>
    let octets :=
      match encoding with
      | .utf8 mark => bytes.drop mark
      | _ => bytes
    .error ⟨encoding, octets, bad⟩

end Gridwork.Text
