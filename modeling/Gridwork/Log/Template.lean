import Gridwork.Text.Basic
import Gridwork.Text.Digit

/-!
# Message templates

The message of a record may be a template: a text with places for arguments. A place begins with a
percent sign; behind it stand, in this order and each optional but the last,

* the name of an argument between parentheses,
* flags,
* a width and, behind a point, a precision, each a number or an asterisk for one more argument,
* one letter of three that say nothing,
* the conversion, a letter that says what the argument is taken for.

Two percent signs are one. `Template.read` cuts a text into pieces. It never fails: what is wrong
with a place is kept in the place, because it comes to light only when the places before it have
been filled.
-/

namespace Gridwork.Log

/-- The name of the argument that a place asks for. -/
inductive PlaceName where
  | absent
  | given (name : Text)
  /-- The parentheses are never closed. -/
  | unclosed
  deriving DecidableEq, Repr

/-- The flags of a place. -/
structure PlaceFlags where
  /-- The argument stands on the left of its field. -/
  left : Bool
  /-- A number that is not negative has a plus sign. -/
  plus : Bool
  /-- A number that is not negative has a blank in place of a sign. -/
  blank : Bool
  /-- The base of a number, or the point of a double, is always written. -/
  alternate : Bool
  /-- A number is filled up with zeros. -/
  zero : Bool
  deriving DecidableEq, Repr

/-- No flags. -/
def PlaceFlags.none : PlaceFlags := ⟨false, false, false, false, false⟩

/-- A width or a precision. -/
inductive PlaceSize where
  | absent
  | given (n : Nat)
  /-- One more argument says it. -/
  | fromArgument
  | tooLarge
  deriving DecidableEq, Repr

/-- A place for an argument. Without a conversion the template has ended too early. -/
structure Place where
  name : PlaceName
  flags : PlaceFlags
  width : PlaceSize
  precision : PlaceSize
  conversion : Option CodePoint
  deriving DecidableEq, Repr

/-- A piece of a template. -/
inductive Piece where
  | point (c : CodePoint)
  | place (p : Place)
  deriving DecidableEq, Repr

/-! ### Reading places

Every reader returns what it has read and the text behind it, which is never longer than the text
it was given. -/

/-- The text up to the parenthesis that closes, with `depth` more to be closed before it. -/
def readClosed (depth : Nat) : List CodePoint → Option (List CodePoint × List CodePoint)
  | [] => none
  | .char ')' :: rest =>
    match depth with
    | 0 => some ([], rest)
    | depth + 1 => (readClosed depth rest).map fun (name, rest) => (')' :: name, rest)
  | .char '(' :: rest => (readClosed (depth + 1) rest).map fun (name, rest) => ('(' :: name, rest)
  | c :: rest => (readClosed depth rest).map fun (name, rest) => (c :: name, rest)

/-- Reads the name of an argument. -/
def PlaceName.read : List CodePoint → PlaceName × List CodePoint
  | .char '(' :: rest =>
    match readClosed 0 rest with
    | some (name, rest) => (.given ⟨name⟩, rest)
    | none => (.unclosed, [])
  | cs => (.absent, cs)

/-- Reads flags in addition to those that are there. -/
def PlaceFlags.read (flags : PlaceFlags) : List CodePoint → PlaceFlags × List CodePoint
  | .char '-' :: rest => PlaceFlags.read { flags with left := true } rest
  | .char '+' :: rest => PlaceFlags.read { flags with plus := true } rest
  | .char ' ' :: rest => PlaceFlags.read { flags with blank := true } rest
  | .char '#' :: rest => PlaceFlags.read { flags with alternate := true } rest
  | .char '0' :: rest => PlaceFlags.read { flags with zero := true } rest
  | cs => (flags, cs)

/-- The largest width. -/
def maxWidth : Nat := Nat.pow 2 63 - 1

/-- The largest precision. -/
def maxPrecision : Nat := Nat.pow 2 31 - 1

/-- Reads a size up to `largest`. -/
def PlaceSize.read (largest : Nat) : List CodePoint → PlaceSize × List CodePoint
  | .char '*' :: rest => (.fromArgument, rest)
  | cs =>
    let digits := (cs.takeWhile CodePoint.isDigit).filterMap (·.char?.bind Text.asciiDigit?)
    if digits.isEmpty then (.absent, cs)
    else
      let n := Text.natOfDigits digits
      (if largest < n then .tooLarge else .given n, cs.dropWhile CodePoint.isDigit)

/-- Reads a precision. A point with nothing behind it is a precision of zero. -/
def PlaceSize.readPrecision : List CodePoint → PlaceSize × List CodePoint
  | .char '.' :: rest =>
    match PlaceSize.read maxPrecision rest with
    | (.absent, rest) => (.given 0, rest)
    | sized => sized
  | cs => (.absent, cs)

/-- The text behind a letter that says nothing, if it begins with one. -/
def skipLetter : List CodePoint → List CodePoint
  | c :: rest => if c = 'h' ∨ c = 'l' ∨ c = 'L' then rest else c :: rest
  | [] => []

/-- Reads a place from behind its percent sign. -/
def Place.read (cs : List CodePoint) : Place × List CodePoint :=
  let (name, cs) := PlaceName.read cs
  let (flags, cs) := PlaceFlags.read .none cs
  let (width, cs) := PlaceSize.read maxWidth cs
  let (precision, cs) := PlaceSize.readPrecision cs
  let cs := skipLetter cs
  (⟨name, flags, width, precision, cs.head?⟩, cs.tail)

/-! ### How much is left -/

theorem length_le_of_readClosed {depth : Nat} {cs name rest : List CodePoint}
    (h : readClosed depth cs = some (name, rest)) : rest.length ≤ cs.length := by
  fun_induction readClosed depth cs generalizing name rest with
  | case1 => simp at h
  | case2 => simp_all
  | case3 _ _ ih | case4 _ _ ih | case5 _ _ _ _ _ ih =>
    obtain ⟨⟨_, _⟩, hread, heq⟩ := Option.map_eq_some_iff.1 h
    have := ih hread
    simp_all
    omega

theorem PlaceName.length_read (cs : List CodePoint) : (PlaceName.read cs).2.length ≤ cs.length := by
  unfold PlaceName.read
  split
  · rename_i rest
    split
    · next h => simpa using Nat.le_succ_of_le (length_le_of_readClosed h)
    · simp
  · simp

theorem PlaceFlags.length_read (flags : PlaceFlags) (cs : List CodePoint) :
    (PlaceFlags.read flags cs).2.length ≤ cs.length := by
  fun_induction PlaceFlags.read flags cs <;> grind

theorem length_dropWhile_le (p : CodePoint → Bool) (cs : List CodePoint) :
    (cs.dropWhile p).length ≤ cs.length :=
  (List.dropWhile_sublist p).length_le

theorem PlaceSize.length_read (largest : Nat) (cs : List CodePoint) :
    (PlaceSize.read largest cs).2.length ≤ cs.length := by
  unfold PlaceSize.read
  split
  · simp
  · dsimp only
    split
    · exact Nat.le_refl _
    · exact length_dropWhile_le _ _

theorem PlaceSize.length_readPrecision (cs : List CodePoint) :
    (PlaceSize.readPrecision cs).2.length ≤ cs.length := by
  unfold PlaceSize.readPrecision
  split
  · rename_i rest
    have h := PlaceSize.length_read maxPrecision rest
    split
    · next heq => rw [heq] at h; simp at h ⊢; omega
    · simp; omega
  · simp

theorem length_skipLetter (cs : List CodePoint) : (skipLetter cs).length ≤ cs.length := by
  unfold skipLetter
  split
  · split <;> simp
  · simp

/-- A place takes up the text that it is read from. -/
theorem Place.length_read (cs : List CodePoint) : (Place.read cs).2.length ≤ cs.length := by
  have h₁ := PlaceName.length_read cs
  have h₂ := PlaceFlags.length_read .none (PlaceName.read cs).2
  have h₃ := PlaceSize.length_read maxWidth (PlaceFlags.read .none (PlaceName.read cs).2).2
  have h₄ := PlaceSize.length_readPrecision
    (PlaceSize.read maxWidth (PlaceFlags.read .none (PlaceName.read cs).2).2).2
  have h₅ := length_skipLetter (PlaceSize.readPrecision
    (PlaceSize.read maxWidth (PlaceFlags.read .none (PlaceName.read cs).2).2).2).2
  simp only [Place.read, List.length_tail]
  omega

/-! ### Whole templates -/

/-- The pieces of a template. -/
def Template.read : List CodePoint → List Piece
  | [] => []
  | .char '%' :: .char '%' :: rest => .point '%' :: Template.read rest
  | .char '%' :: rest => .place (Place.read rest).1 :: Template.read (Place.read rest).2
  | c :: rest => .point c :: Template.read rest
termination_by cs => cs.length
decreasing_by
  · simp only [List.length_cons]
    omega
  · exact Nat.lt_succ_of_le (Place.length_read rest)
  · simp only [List.length_cons]
    omega

end Gridwork.Log
