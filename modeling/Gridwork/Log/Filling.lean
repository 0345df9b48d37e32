import Gridwork.Json.Display
import Gridwork.Log.Template
import Gridwork.Number.Notation

/-!
# Filling message templates

`fillMessage` puts arguments into the places of a template, from left to right. A place takes the
next argument, after those that its width and its precision take; a place with a name takes the
argument of that name. Names are known if the only argument is an object that is not empty: then
every name is one of its keys, and the object itself is the one argument without a name.

The conversion of a place says what its argument is taken for: a text, a whole number, a double or a
character. What comes of it is put into a field of at least the width of the place.
-/

namespace Gridwork.Log

/-- Why a template cannot be filled. -/
inductive TemplateFault where
  /-- The template ends in the middle of a place. -/
  | incomplete
  | sizeTooLarge
  | unknownConversion (c : CodePoint)
  | missingName (name : Text)
  /-- A place has a name, but the arguments have none. -/
  | noNames
  | tooFewArguments
  | tooManyArguments
  /-- An argument is not of the kind that the place takes. -/
  | unfit
  /-- What is no number is taken for a whole one. -/
  | notANumber
  /-- An argument is of the right kind, but too large or too small. -/
  | outOfRange
  deriving DecidableEq, Repr

/-! ### Arguments -/

/-- The arguments of a template while it is filled: those that may still be taken, and the ones that
are called by name. -/
structure Supply where
  pending : List Json
  names : Option Json.Entries

namespace Supply

/-- The arguments of a template before any is taken. -/
def ofArguments (args : List Json) : Supply :=
  match args with
  | [.obj (entry :: entries)] => ⟨args, some (entry :: entries)⟩
  | _ => ⟨args, none⟩

/-- Takes the next argument. -/
def take (s : Supply) : Except TemplateFault (Json × Supply) :=
  match s.pending with
  | v :: rest => .ok (v, { s with pending := rest })
  | [] => .error .tooFewArguments

/-- Makes the argument of a given name the next one, and the last that is not called by name. -/
def call (s : Supply) : PlaceName → Except TemplateFault Supply
  | .absent => .ok s
  | .given name =>
    match s.names with
    | none => .error .noNames
    | some entries =>
      match entries.get? name with
      | some v => .ok { s with pending := [v] }
      | none => .error (.missingName name)
  | .unclosed => .error (if s.names.isSome then .incomplete else .noNames)

/-- Whether the arguments have all been taken, as they must be unless they have names. -/
def isSpent (s : Supply) : Bool := s.names.isSome || s.pending.isEmpty

end Supply

/-! ### Numbers -/

/-- A whole number or a truth value as a whole number. -/
def wholeArgument (v : Json) : Except TemplateFault Int :=
  match v with
  | .int n => .ok n
  | .bool b => .ok b.toInt
  | _ => .error .unfit

/-- A double without its fraction. -/
def truncated (x : Binary64) : Except TemplateFault Int :=
  if x.isNaN then .error .notANumber
  else if !x.isFinite then .error .outOfRange
  else
    let (num, den) := x.ratio
    .ok (if x.isNegative then -(num / den : Nat) else (num / den : Nat))

/-- A number of any kind as a whole number. -/
def truncatedArgument (v : Json) : Except TemplateFault Int :=
  match v with
  | .float x => truncated x
  | v => wholeArgument v

/-- A number of any kind as a double. -/
def doubleArgument (v : Json) : Except TemplateFault Binary64 :=
  match v with
  | .float x => .ok x
  | v => do
    match Binary64.ofInt? (← wholeArgument v) with
    | some x => return x
    | none => throw .outOfRange

/-- A code point, or the number of one. -/
def characterArgument (v : Json) : Except TemplateFault CodePoint :=
  match v with
  | .str s =>
    match s.toList with
    | [c] => .ok c
    | _ => .error .unfit
  | v => do
    let n ← wholeArgument v
    if 0 ≤ n ∧ n < 0x110000 then return .ofNat n.toNat else throw .outOfRange

/-! ### Sizes -/

/-- A width: on the left of its field stands also an argument whose width is negative. -/
def takeWidth (flags : PlaceFlags) (s : Supply) :
    PlaceSize → Except TemplateFault (Nat × PlaceFlags × Supply)
  | .absent => .ok (0, flags, s)
  | .given n => .ok (n, flags, s)
  | .tooLarge => .error .sizeTooLarge
  | .fromArgument => do
    let (v, s) ← s.take
    let n ← wholeArgument v
    if -(maxWidth + 1 : Int) ≤ n ∧ n ≤ maxWidth then
      return (n.natAbs, { flags with left := flags.left || n < 0 }, s)
    else throw .outOfRange

/-- A precision: a negative one counts as zero. -/
def takePrecision (s : Supply) : PlaceSize → Except TemplateFault (Option Nat × Supply)
  | .absent => .ok (none, s)
  | .given n => .ok (some n, s)
  | .tooLarge => .error .sizeTooLarge
  | .fromArgument => do
    let (v, s) ← s.take
    let n ← wholeArgument v
    if -(maxPrecision + 1 : Int) ≤ n ∧ n ≤ maxPrecision then return (some n.toNat, s)
    else throw .outOfRange

/-! ### Conversions -/

/-- A whole number's base in writing. -/
inductive Base where
  | decimal
  | octal
  | hexadecimal
  deriving DecidableEq, Repr

/-- What an argument is taken for. The letters of a number may be upper case. -/
inductive Conversion where
  | shown
  | quoted
  | quotedAscii
  | character
  | whole (base : Base) (upper : Bool)
  | scientific (upper : Bool)
  | fixed (upper : Bool)
  | general (upper : Bool)
  deriving DecidableEq, Repr

/-- The conversion of a letter. -/
def Conversion.ofChar? : Char → Option Conversion
  | 's' => some .shown
  | 'r' => some .quoted
  | 'a' => some .quotedAscii
  | 'c' => some .character
  | 'd' => some (.whole .decimal false)
  | 'i' => some (.whole .decimal false)
  | 'u' => some (.whole .decimal false)
  | 'o' => some (.whole .octal false)
  | 'x' => some (.whole .hexadecimal false)
  | 'X' => some (.whole .hexadecimal true)
  | 'e' => some (.scientific false)
  | 'E' => some (.scientific true)
  | 'f' => some (.fixed false)
  | 'F' => some (.fixed true)
  | 'g' => some (.general false)
  | 'G' => some (.general true)
  | _ => none

namespace Base

/-- How many digits a base has. -/
def size : Base → Nat
  | .decimal => 10
  | .octal => 8
  | .hexadecimal => 16

/-- The mark of a base in front of the digits. -/
def mark : Base → List Char
  | .decimal => []
  | .octal => "0o".toList
  | .hexadecimal => "0x".toList

/-- A number as the base takes it: only in decimal may it have lost a fraction. -/
def argument (base : Base) (v : Json) : Except TemplateFault Int :=
  if base = .decimal then truncatedArgument v else wholeArgument v

end Base

/-- A converted argument: what stands in front of the digits of a number, and the rest. -/
structure Converted where
  isNumber : Bool
  lead : List CodePoint
  body : List CodePoint
  deriving DecidableEq, Repr

/-- The sign of a number. -/
def signOf (flags : PlaceFlags) (negative : Bool) : List Char :=
  if negative then ['-'] else if flags.plus then ['+'] else if flags.blank then [' '] else []

/-- Letters in upper case, if they are to be. -/
def raised (upper : Bool) (cs : List Char) : List Char := if upper then cs.map Char.toUpper else cs

/-- A text cut off at the precision. -/
def convertedText (precision : Option Nat) (t : Text) : Converted :=
  ⟨false, [], (precision.map t.toList.take).getD t.toList⟩

/-- A number in characters. -/
def convertedNumber (lead body : List Char) : Converted :=
  ⟨true, lead.map .char, body.map .char⟩

/-- A whole number with at least as many digits as the precision says. -/
def convertedWhole (flags : PlaceFlags) (precision : Option Nat) (base : Base) (upper : Bool)
    (n : Int) : Converted :=
  let digits := Nat.toDigits base.size n.natAbs
  let mark := if flags.alternate then base.mark else []
  let zeros := List.replicate (precision.getD 0 - digits.length) '0'
  convertedNumber (signOf flags (n < 0) ++ raised upper mark) (zeros ++ raised upper digits)

/-- A double in one of the notations; infinity and what is no number are words. -/
def convertedDouble (flags : PlaceFlags) (upper : Bool)
    (write : Binary64 → Bool → List Char) (x : Binary64) : Converted :=
  let body :=
    if x.isNaN then "nan".toList
    else if !x.isFinite then "inf".toList
    else write x flags.alternate
  convertedNumber (signOf flags (x.isNegative && !x.isNaN)) (raised upper body)

/-- The precision of doubles that none is given for. -/
def usualPrecision : Nat := 6

/-- Converts an argument. -/
def Conversion.convert (flags : PlaceFlags) (precision : Option Nat) (v : Json) :
    Conversion → Except TemplateFault Converted
  | .shown => .ok (convertedText precision v.display)
  | .quoted => .ok (convertedText precision v.displayQuoted)
  | .quotedAscii => .ok (convertedText precision (Text.asciiOnly v.displayQuoted))
  | .character => (characterArgument v).map fun c => ⟨false, [], [c]⟩
  | .whole base upper => (base.argument v).map (convertedWhole flags precision base upper)
  | .scientific upper =>
    (doubleArgument v).map
      (convertedDouble flags upper fun x => x.scientific (precision.getD usualPrecision))
  | .fixed upper =>
    (doubleArgument v).map
      (convertedDouble flags upper fun x => x.fixed (precision.getD usualPrecision))
  | .general upper =>
    (doubleArgument v).map
      (convertedDouble flags upper fun x => x.general (precision.getD usualPrecision))

/-- A converted argument in a field of at least a given width. -/
def Converted.layout (flags : PlaceFlags) (width : Nat) (c : Converted) : List CodePoint :=
  let missing := width - (c.lead.length + c.body.length)
  if flags.left then c.lead ++ c.body ++ List.replicate missing (.char ' ')
  else if flags.zero && c.isNumber then c.lead ++ List.replicate missing (.char '0') ++ c.body
  else List.replicate missing (.char ' ') ++ c.lead ++ c.body

/-! ### Places and templates -/

/-- Fills a place. -/
def Place.fill (p : Place) (s : Supply) : Except TemplateFault (List CodePoint × Supply) := do
  let s ← s.call p.name
  let (width, flags, s) ← takeWidth p.flags s p.width
  let (precision, s) ← takePrecision s p.precision
  match p.conversion with
  | none => throw .incomplete
  | some letter =>
    let (v, s) ← s.take
    match letter.char?.bind Conversion.ofChar? with
    | none => throw (.unknownConversion letter)
    | some conversion =>
      let converted ← conversion.convert flags precision v
      return (converted.layout flags width, s)

/-- Fills the places of a template. All arguments must be taken. -/
def fillPieces (s : Supply) : List Piece → Except TemplateFault (List CodePoint)
  | [] => if s.isSpent then .ok [] else .error .tooManyArguments
  | .point c :: rest => (fillPieces s rest).map (c :: ·)
  | .place p :: rest => do
    let (cs, s) ← p.fill s
    let filled ← fillPieces s rest
    return cs ++ filled

/-- A message with its arguments; without arguments it is no template and stands as it is. -/
def fillMessage (message : Text) (args : List Json) : Except TemplateFault Text :=
  if args.isEmpty then .ok message
  else (fillPieces (.ofArguments args) (Template.read message.toList)).map Text.ofList

example : (fillMessage "%-3s|%+05d%%" [.str "a", .int 7]).toOption = some "a  |+0007%" := by
  decide +kernel

end Gridwork.Log
