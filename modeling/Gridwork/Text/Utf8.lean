import Gridwork.Text.Basic

/-!
# UTF-8

`encode` writes characters as octets. `decode` reads octets strictly and says, when they are not
well formed, which octets are at fault and why; the ranges are the longest ones that could still
have begun a character.

Octets that spell half of a surrogate pair are at fault too, unless the caller lets them pass.
-/

namespace Gridwork.Text

/-- Why octets could not be read. -/
inductive EncodingFault where
  | invalidStart
  | invalidContinuation
  | unexpectedEnd
  | truncated
  | outOfRange
  deriving DecidableEq, Repr

/-- The wording of a fault. -/
def EncodingFault.message : EncodingFault → String
  | .invalidStart => "invalid start byte"
  | .invalidContinuation => "invalid continuation byte"
  | .unexpectedEnd => "unexpected end of data"
  | .truncated => "truncated data"
  | .outOfRange => "code point not in range(0x110000)"

/-- The octets from `start` up to, not including, `stop` are at fault. -/
structure BadOctets where
  start : Nat
  stop : Nat
  fault : EncodingFault
  deriving DecidableEq, Repr

namespace Utf8

/-- The octets of one character. -/
def encodeChar (c : Char) : List UInt8 :=
  let n := c.toNat
  if n < 0x80 then [n.toUInt8]
  else if n < 0x800 then [(0xC0 + n / 0x40).toUInt8, (0x80 + n % 0x40).toUInt8]
  else if n < 0x10000 then
    [(0xE0 + n / 0x1000).toUInt8, (0x80 + n / 0x40 % 0x40).toUInt8, (0x80 + n % 0x40).toUInt8]
  else
    [(0xF0 + n / 0x40000).toUInt8, (0x80 + n / 0x1000 % 0x40).toUInt8,
      (0x80 + n / 0x40 % 0x40).toUInt8, (0x80 + n % 0x40).toUInt8]

/-- The octets of a text. -/
def encode (cs : List Char) : List UInt8 := cs.flatMap encodeChar

/-- Whether an octet continues a character. -/
def isContinuation (b : UInt8) : Bool := 0x80 ≤ b && b < 0xC0

/-- The six bits that a continuing octet carries. -/
def payload (b : UInt8) : Nat := b.toNat % 0x40

/-- The outcome of reading one code point: the code point and the number of octets after the first
that belong to it, or the number of octets that are at fault. -/
inductive Step where
  | point (c : CodePoint) (more : Nat)
  | bad (octets : Nat) (fault : EncodingFault)

/-- Whether the second octet of a character is one that may follow `first`: the shortest form is
demanded, halves of pairs and code points beyond the last are refused. -/
def mayFollow (first second : UInt8) : Bool :=
  isContinuation second &&
    !(first == 0xE0 && second < 0xA0) && !(first == 0xED && 0xA0 ≤ second) &&
    !(first == 0xF0 && second < 0x90) && !(first == 0xF4 && 0x90 ≤ second)

/-- Reads a character of two octets. -/
def stepTwo (first : UInt8) : List UInt8 → Step
  | [] => .bad 1 .unexpectedEnd
  | b :: _ =>
    if isContinuation b then .point (Char.ofNat (first.toNat % 0x20 * 0x40 + payload b)) 1
    else .bad 1 .invalidContinuation

/-- The number that three octets spell. -/
def spelledThree (first b c : UInt8) : Nat :=
  first.toNat % 0x10 * 0x1000 + payload b * 0x40 + payload c

/-- Reads a code point of three octets. -/
def stepThree (halves : Bool) (first : UInt8) : List UInt8 → Step
  | [] => .bad 1 .unexpectedEnd
  | [b] => if mayFollow first b then .bad 2 .unexpectedEnd else .bad 1 .invalidContinuation
  | b :: c :: _ =>
    if mayFollow first b then
      if isContinuation c then .point (Char.ofNat (spelledThree first b c)) 2
      else .bad 2 .invalidContinuation
    else if halves && first == 0xED && isContinuation b && isContinuation c then
      .point (.ofNat (spelledThree first b c)) 2
    else .bad 1 .invalidContinuation

/-- Reads a character of four octets. -/
def stepFour (first : UInt8) : List UInt8 → Step
  | [] => .bad 1 .unexpectedEnd
  | b :: rest =>
    if mayFollow first b then
      match rest with
      | [] => .bad 2 .unexpectedEnd
      | c :: rest =>
        if isContinuation c then
          match rest with
          | [] => .bad 3 .unexpectedEnd
          | d :: _ =>
            if isContinuation d then
              .point (Char.ofNat (first.toNat % 0x8 * 0x40000 + payload b * 0x1000
                + payload c * 0x40 + payload d)) 3
            else .bad 3 .invalidContinuation
        else .bad 2 .invalidContinuation
    else .bad 1 .invalidContinuation

/-- Reads the code point that begins with `first`. -/
def step (halves : Bool) (first : UInt8) (rest : List UInt8) : Step :=
  if first < 0x80 then .point (Char.ofNat first.toNat) 0
  else if first < 0xC2 then .bad 1 .invalidStart
  else if first < 0xE0 then stepTwo first rest
  else if first < 0xF0 then stepThree halves first rest
  else if first < 0xF5 then stepFour first rest
  else .bad 1 .invalidStart

/-- Reads octets, the first of which stands at position `start`; `done` holds the code points read
before, the last one first. -/
def decodeFrom (halves : Bool) (start : Nat) (done : List CodePoint) (bytes : List UInt8) :
    Except BadOctets (List CodePoint) :=
  match bytes with
  | [] => .ok done.reverse
  | first :: rest =>
    match step halves first rest with
    | .bad octets fault => .error ⟨start, start + octets, fault⟩
    | .point c more => decodeFrom halves (start + more + 1) (c :: done) (rest.drop more)
termination_by bytes.length
decreasing_by simp only [List.length_drop, List.length_cons]; omega

/-- Reads octets as characters; halves of pairs are faults. -/
def decode (bytes : List UInt8) : Except BadOctets (List Char) :=
  (decodeFrom false 0 [] bytes).map (·.filterMap CodePoint.char?)

end Utf8

end Gridwork.Text
