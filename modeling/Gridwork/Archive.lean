import Gridwork.Text.Utf8

/-!
# Archives

A workbook file is an archive of named parts. `Archive.encode` writes one without compression: the
parts one after the other, each behind a header, then a directory of them, then its end record.
Numbers are written with the least significant octet first.
-/

namespace Gridwork.Archive

/-- A number in `n` octets. -/
def littleEndian (n value : Nat) : List UInt8 :=
  (List.range n).map fun i => UInt8.ofNat (value / Nat.pow 256 i)

/-- One step of the checksum, for one bit. -/
def checksumBit (c : UInt32) : UInt32 :=
  if c &&& 1 = 1 then (0xEDB88320 : UInt32) ^^^ (c >>> 1) else c >>> 1

/-- One step of the checksum, for one octet. -/
def checksumOctet (c : UInt32) (b : UInt8) : UInt32 :=
  (List.range 8).foldl (fun c _ => checksumBit c) (c ^^^ b.toUInt32)

/-- The cyclic redundancy checksum of 32 bits. -/
def checksum (bytes : List UInt8) : Nat :=
  let c : UInt32 := bytes.foldl checksumOctet 0xFFFFFFFF
  (c ^^^ 0xFFFFFFFF).toNat

example : checksum (Text.Utf8.encode "123456789".toList) = 0xCBF43926 := by decide +kernel

/-- A named part. -/
structure Part where
  name : String
  content : List UInt8

/-- The octets of a part's name. -/
def Part.nameOctets (p : Part) : List UInt8 := Text.Utf8.encode p.name.toList

/-- The fields that the header of a part and its entry in the directory have in common: the version
needed, flags, method, time and date of change, checksum, both sizes, the length of the name and of
the extra field. Every part bears the first day that a date can name. -/
def Part.commonFields (p : Part) : List UInt8 :=
  littleEndian 2 20 ++ littleEndian 2 0x800 ++ littleEndian 2 0 ++ littleEndian 2 0
    ++ littleEndian 2 0x21 ++ littleEndian 4 (checksum p.content)
    ++ littleEndian 4 p.content.length ++ littleEndian 4 p.content.length
    ++ littleEndian 2 p.nameOctets.length ++ littleEndian 2 0

/-- A part behind its header. -/
def Part.stored (p : Part) : List UInt8 :=
  littleEndian 4 0x04034b50 ++ p.commonFields ++ p.nameOctets ++ p.content

/-- The entry of the directory for a part that begins at `offset`. -/
def Part.entry (p : Part) (offset : Nat) : List UInt8 :=
  littleEndian 4 0x02014b50 ++ littleEndian 2 20 ++ p.commonFields ++ littleEndian 2 0
    ++ littleEndian 2 0 ++ littleEndian 2 0 ++ littleEndian 4 0 ++ littleEndian 4 offset
    ++ p.nameOctets

/-- The directory of parts of which the first begins at `offset`. -/
def directory (offset : Nat) : List Part → List UInt8
  | [] => []
  | p :: rest => p.entry offset ++ directory (offset + p.stored.length) rest

/-- The octets of an archive. -/
def encode (parts : List Part) : List UInt8 :=
  let body := parts.flatMap Part.stored
  let entries := directory 0 parts
  body ++ entries ++ littleEndian 4 0x06054b50 ++ littleEndian 2 0 ++ littleEndian 2 0
    ++ littleEndian 2 parts.length ++ littleEndian 2 parts.length
    ++ littleEndian 4 entries.length ++ littleEndian 4 body.length ++ littleEndian 2 0

end Gridwork.Archive
