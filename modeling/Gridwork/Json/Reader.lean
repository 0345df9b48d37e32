import Gridwork.Json.Depth
import Gridwork.Text.Encoding

/-!
# Reading JSON text

`Json.parse` reads a JSON text into a tree or says what is wrong and where. Beyond the standard it
takes `NaN`, `Infinity` and `-Infinity`. A number without fraction and exponent is a whole number of
any size up to 4300 digits, any other number is rounded to a double. When an object repeats a key,
the key keeps its first place and its last value.

The reader goes from left to right and stops at the first fault, or where an array or object opens
for which there is no room any more. Positions count characters from the start of the text; of a
fault inside an escape the position is that of the backslash or of the letter behind it.
-/

namespace Gridwork.Json

/-- What can be wrong with a JSON text. -/
inductive SyntaxFault where
  | expectingValue
  | expectingName
  | expectingColon
  | expectingComma
  | unterminatedString
  | controlCharacter
  | badEscape
  | badUnicodeEscape
  | extraData
  | byteOrderMark
  deriving DecidableEq, Repr

/-- The wording of a fault. -/
def SyntaxFault.message : SyntaxFault → String
  | .expectingValue => "Expecting value"
  | .expectingName => "Expecting property name enclosed in double quotes"
  | .expectingColon => "Expecting ':' delimiter"
  | .expectingComma => "Expecting ',' delimiter"
  | .unterminatedString => "Unterminated string starting at"
  | .controlCharacter => "Invalid control character at"
  | .badEscape => "Invalid \\escape"
  | .badUnicodeEscape => "Invalid \\uXXXX escape"
  | .extraData => "Extra data"
  | .byteOrderMark => "Unexpected UTF-8 BOM (decode using utf-8-sig)"

/-- Why reading stopped: a fault at a position, a whole number with too many digits, or an array or
object inside too many others. -/
inductive Halt where
  | fault (fault : SyntaxFault) (position : Nat)
  | tooManyDigits
  | tooDeep
  deriving DecidableEq, Repr

/-- The rest of a text and the position of its first character. -/
structure Cursor where
  rest : List CodePoint
  position : Nat

/-! ### Blanks -/

/-- Whether a character may stand between the parts of a JSON text. -/
def isBlank (c : CodePoint) : Bool := c == ' ' || c == '\t' || c == '\n' || c == '\r'

/-- Passes over blanks. -/
def skipBlanks (position : Nat) : List CodePoint → Cursor
  | [] => ⟨[], position⟩
  | c :: rest => if isBlank c then skipBlanks (position + 1) rest else ⟨c :: rest, position⟩

/-- The cursor behind the blanks that it stands at. -/
def Cursor.skip (c : Cursor) : Cursor := skipBlanks c.position c.rest

/-! ### Strings -/

/-- The character that a one-letter escape stands for. -/
def shortEscape? : Char → Option Char
  | '"' => some '"'
  | '\\' => some '\\'
  | '/' => some '/'
  | 'b' => some '\x08'
  | 'f' => some '\x0c'
  | 'n' => some '\n'
  | 'r' => some '\r'
  | 't' => some '\t'
  | _ => none

/-- Adds the code point of an escape to those read so far, the last one first. `opened` is the high
half that another escape left directly before; a low half completes it to one character. -/
def addPoint (opened : Option (Fin 1024)) (c : CodePoint) (done : List CodePoint) :
    List CodePoint :=
  match opened, c with
  | some i, .low j => .char (CodePoint.paired i j) :: done.tail
  | _, c => c :: done

/-- The high half that an escape leaves open. -/
def openHalf : CodePoint → Option (Fin 1024)
  | .high i => some i
  | _ => none

/-- The code point that four hexadecimal digits stand for. -/
def readUnit? (a b c d : CodePoint) : Option CodePoint := do
  return .ofNat (← Text.hexQuad? (← a.char?) (← b.char?) (← c.char?) (← d.char?))

/-- Reads a string behind its opening quote, which stands at `start`. -/
def readString (start : Nat) (opened : Option (Fin 1024)) (done : List CodePoint)
    (position : Nat) : List CodePoint → Except Halt (Text × Cursor)
  | [] => .error (.fault .unterminatedString start)
  | .char '"' :: rest => .ok (⟨done.reverse⟩, ⟨rest, position + 1⟩)
  | [.char '\\'] => .error (.fault .unterminatedString start)
  | .char '\\' :: .char 'u' :: a :: b :: c :: d :: rest =>
    match readUnit? a b c d with
    | some unit =>
      if rest.isEmpty then .error (.fault .badUnicodeEscape (position + 1))
      else readString start (openHalf unit) (addPoint opened unit done) (position + 6) rest
    | none => .error (.fault .badUnicodeEscape (position + 1))
  | .char '\\' :: .char 'u' :: _ => .error (.fault .badUnicodeEscape (position + 1))
  | .char '\\' :: e :: rest =>
    match e.char?.bind shortEscape? with
    | some c => readString start none (c :: done) (position + 2) rest
    | none => .error (.fault .badEscape position)
  | c :: rest =>
    if c.toNat < 0x20 then .error (.fault .controlCharacter position)
    else readString start none (c :: done) (position + 1) rest

/-! ### Numbers -/

/-- The number that ASCII digits write. -/
def natOfDigits (digits : List CodePoint) : Nat :=
  digits.foldl (fun n c => 10 * n + (c.toNat - '0'.toNat)) 0

/-- The fraction that follows the whole part of a number: a point and at least one digit. -/
def readFraction : List CodePoint → List CodePoint × List CodePoint
  | .char '.' :: c :: rest =>
    if c.isDigit then (c :: rest.takeWhile CodePoint.isDigit, rest.dropWhile CodePoint.isDigit)
    else ([], '.' :: c :: rest)
  | rest => ([], rest)

/-- The exponent that follows a number, if there is a whole one: the letter, a sign or none, and at
least one digit. -/
def readExponent (text : List CodePoint) : Option (Int × List CodePoint) :=
  match text with
  | e :: rest =>
    if e = 'e' ∨ e = 'E' then
      let (negative, rest) :=
        match rest with
        | .char '-' :: rest => (true, rest)
        | .char '+' :: rest => (false, rest)
        | rest => (false, rest)
      let digits := rest.takeWhile CodePoint.isDigit
      if digits.isEmpty then none
      else
        let n : Int := natOfDigits digits
        some (if negative then -n else n, rest.dropWhile CodePoint.isDigit)
    else none
  | [] => none

/-- The digits of the whole part of a number: zero, or digits of which the first is not zero. -/
def readWhole : List CodePoint → Option (List CodePoint × List CodePoint)
  | .char '0' :: rest => some (['0'], rest)
  | c :: rest =>
    if c.isDigit then
      some (c :: rest.takeWhile CodePoint.isDigit, rest.dropWhile CodePoint.isDigit)
    else none
  | [] => none

/-- The largest number of digits that a whole number may have. -/
def maxDigits : Nat := 4300

/-- Reads a number. -/
def readNumber (c : Cursor) : Except Halt (Json × Cursor) :=
  let (negative, unsigned) :=
    match c.rest with
    | .char '-' :: rest => (true, rest)
    | rest => (false, rest)
  match readWhole unsigned with
  | none => .error (.fault .expectingValue c.position)
  | some (whole, rest) =>
    let (fraction, rest) := readFraction rest
    let (exponent, rest) :=
      match readExponent rest with
      | some (e, rest) => (some e, rest)
      | none => (none, rest)
    let next : Cursor := ⟨rest, c.position + (c.rest.length - rest.length)⟩
    if fraction.isEmpty && exponent.isNone then
      if maxDigits < whole.length then .error .tooManyDigits
      else
        let n : Int := natOfDigits whole
        .ok (.int (if negative then -n else n), next)
    else
      let e := exponent.getD 0 - fraction.length
      .ok (.float (.ofDecimal negative (natOfDigits (whole ++ fraction)) e), next)

/-! ### Values -/

/-- Adds an entry to the entries read so far, the last one first. -/
def addEntry (key : Text) (value : Json) (done : List (Text × Json)) : List (Text × Json) :=
  if done.any (·.1 == key) then done.map fun e => if e.1 == key then (key, value) else e
  else (key, value) :: done

/-- Whether there is room for an array or object inside so many others. -/
def mayOpen (room : Option Nat) (level : Nat) : Bool := room.all (level < ·)

@[simp] theorem mayOpen_none (level : Nat) : mayOpen none level = true := rfl

mutual

/-- Reads the value at the cursor, which stands inside `level` arrays and objects. The number of
steps is bounded by `fuel`. -/
def readValue (room : Option Nat) (level : Nat) : Nat → Cursor → Except Halt (Json × Cursor)
  | 0, c => .error (.fault .expectingValue c.position)
  | fuel + 1, c =>
    match c.rest with
    | .char '"' :: rest =>
      match readString c.position none [] (c.position + 1) rest with
      | .ok (s, c) => .ok (.str s, c)
      | .error e => .error e
    | .char '[' :: rest =>
      if mayOpen room level then
        let c := skipBlanks (c.position + 1) rest
        match c.rest with
        | .char ']' :: rest => .ok (.arr [], ⟨rest, c.position + 1⟩)
        | _ => readItems room (level + 1) fuel [] c
      else .error .tooDeep
    | .char '{' :: rest =>
      if mayOpen room level then
        let c := skipBlanks (c.position + 1) rest
        match c.rest with
        | .char '}' :: rest => .ok (.obj [], ⟨rest, c.position + 1⟩)
        | _ => readEntries room (level + 1) fuel [] c
      else .error .tooDeep
    | .char 'n' :: .char 'u' :: .char 'l' :: .char 'l' :: rest =>
      .ok (.null, ⟨rest, c.position + 4⟩)
    | .char 't' :: .char 'r' :: .char 'u' :: .char 'e' :: rest =>
      .ok (.bool true, ⟨rest, c.position + 4⟩)
    | .char 'f' :: .char 'a' :: .char 'l' :: .char 's' :: .char 'e' :: rest =>
      .ok (.bool false, ⟨rest, c.position + 5⟩)
    | .char 'N' :: .char 'a' :: .char 'N' :: rest => .ok (.float .nan, ⟨rest, c.position + 3⟩)
    | .char 'I' :: .char 'n' :: .char 'f' :: .char 'i' :: .char 'n' :: .char 'i' :: .char 't'
        :: .char 'y' :: rest =>
      .ok (.float (.infinity false), ⟨rest, c.position + 8⟩)
    | .char '-' :: .char 'I' :: .char 'n' :: .char 'f' :: .char 'i' :: .char 'n' :: .char 'i'
        :: .char 't' :: .char 'y' :: rest =>
      .ok (.float (.infinity true), ⟨rest, c.position + 9⟩)
    | _ => readNumber c

/-- Reads the members of an array up to the closing bracket. -/
def readItems (room : Option Nat) (level : Nat) :
    Nat → List Json → Cursor → Except Halt (Json × Cursor)
  | 0, _, c => .error (.fault .expectingValue c.position)
  | fuel + 1, done, c =>
    match readValue room level fuel c with
    | .error e => .error e
    | .ok (v, c) =>
      let c := c.skip
      match c.rest with
      | .char ']' :: rest => .ok (.arr (v :: done).reverse, ⟨rest, c.position + 1⟩)
      | .char ',' :: rest =>
        readItems room level fuel (v :: done) (skipBlanks (c.position + 1) rest)
      | _ => .error (.fault .expectingComma c.position)

/-- Reads the entries of an object up to the closing brace. -/
def readEntries (room : Option Nat) (level : Nat) :
    Nat → List (Text × Json) → Cursor → Except Halt (Json × Cursor)
  | 0, _, c => .error (.fault .expectingName c.position)
  | fuel + 1, done, c =>
    match c.rest with
    | .char '"' :: rest =>
      match readString c.position none [] (c.position + 1) rest with
      | .error e => .error e
      | .ok (key, c) =>
        let c := c.skip
        match c.rest with
        | .char ':' :: rest =>
          match readValue room level fuel (skipBlanks (c.position + 1) rest) with
          | .error e => .error e
          | .ok (v, c) =>
            let c := c.skip
            match c.rest with
            | .char '}' :: rest => .ok (.obj (addEntry key v done).reverse, ⟨rest, c.position + 1⟩)
            | .char ',' :: rest =>
              readEntries room level fuel (addEntry key v done) (skipBlanks (c.position + 1) rest)
            | _ => .error (.fault .expectingComma c.position)
        | _ => .error (.fault .expectingColon c.position)
    | _ => .error (.fault .expectingName c.position)

end

/-- Reads a whole text as one value. Every step of the reader consumes a character or is followed by
one that does, so twice the length of the text bounds the steps. -/
def readText (room : Option Nat) (text : List CodePoint) : Except Halt Json :=
  match readValue room 0 (2 * text.length + 2) (skipBlanks 0 text) with
  | .error e => .error e
  | .ok (v, c) =>
    let c := c.skip
    if c.rest.isEmpty then .ok v else .error (.fault .extraData c.position)

/-! ### Errors as reported -/

/-- A place in a text: line and column count from one, the position from zero. -/
structure Place where
  line : Nat
  column : Nat
  position : Nat
  deriving DecidableEq, Repr

/-- The place of a position. -/
def Place.of (text : List CodePoint) (position : Nat) : Place :=
  let before := text.take position
  ⟨before.count (.char '\n') + 1, (before.reverse.takeWhile (· != .char '\n')).length + 1, position⟩

/-- Why a text could not be read. -/
inductive ReadError where
  | malformed (fault : SyntaxFault) (place : Place)
  | tooManyDigits
  | tooDeep
  deriving DecidableEq, Repr

/-- The report of a malformed text. -/
def malformedMessage (fault : SyntaxFault) (place : Place) : String :=
  fault.message ++ ": line " ++ toString place.line ++ " column " ++ toString place.column
    ++ " (char " ++ toString place.position ++ ")"

/-- Reads a JSON text that may stand behind a byte order mark. -/
def parseUnmarked (room : Option Nat) (text : List CodePoint) : Except ReadError Json :=
  match readText room text with
  | .ok v => .ok v
  | .error (.fault fault position) => .error (.malformed fault (.of text position))
  | .error .tooManyDigits => .error .tooManyDigits
  | .error .tooDeep => .error .tooDeep

/-- Reads a JSON text. A byte order mark in front of it is refused. -/
def parse (room : Option Nat) (s : Text) : Except ReadError Json :=
  match s.toList with
  | .char '\uFEFF' :: rest => .error (.malformed .byteOrderMark (.of ('\uFEFF' :: rest) 0))
  | text => parseUnmarked room text

end Gridwork.Json
