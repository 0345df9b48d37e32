import Gridwork.Text.Basic
import Gridwork.Text.Case.Table

/-!
# Upper case, lower case, and search ignoring case

Three ways to disregard case, each with its own use:

* `upper` gives the full upper-case form of a text, in which one letter may become several
  (`ﬁ` becomes `FI`);
* `lower` gives the full lower-case form, in which a capital sigma becomes `ς` at the end of a
  word and `σ` elsewhere;
* `sameIgnoringCase` compares two single code points as a search that ignores case does.

On ASCII text all three agree with the mapping of `a … z` to `A … Z`. Halves of pairs have no case.
-/

namespace Gridwork.Text

/-- The image of a code point under a run, if the run covers it. -/
def CaseRun.image? (run : CaseRun) (n : Nat) : Option Nat :=
  if run.first ≤ n ∧ n ≤ run.last ∧ (n - run.first) % run.stride = 0 then
    some ((n : Int) + run.offset).toNat
  else none

/-- The image of a character under the first run that covers it, else the character itself. -/
def mapByRuns (runs : Array CaseRun) (c : Char) : Char :=
  match runs.findSome? (·.image? c.toNat) with
  | some n => Char.ofNat n
  | none => c

/-- The forms of a code point that has forms if it is a character, and else stands for itself. -/
def expand (forms : Char → List Char) : CodePoint → List CodePoint
  | .char c => (forms c).map .char
  | half => [half]

/-! ### Upper case -/

/-- The upper-case form of one character. -/
def upperChar (c : Char) : List Char :=
  if c.toNat < 0x80 then [c.toUpper]
  else
    match CaseTable.upperExpansions.find? (·.1 == c.toNat) with
    | some (_, form) => form.map Char.ofNat
    | none => [mapByRuns CaseTable.upperRuns c]

/-- The upper-case form of a text. -/
def upper (t : Text) : Text := ⟨t.toList.flatMap (expand upperChar)⟩

/-! ### Lower case -/

/-- Whether a character is passed over when the surroundings of a capital sigma are inspected. -/
def isCaseIgnorable (c : Char) : Bool := CaseTable.caseIgnorable.contains c

/-- Whether a character is a letter with case. -/
def isCased (c : Char) : Bool := CaseTable.cased.contains c

/-- Whether the first character that is not passed over is a letter with case. -/
def startsCased : List CodePoint → Bool
  | [] => false
  | c :: rest => if c.is isCaseIgnorable then startsCased rest else c.is isCased

/-- The one-character lower-case form, the one that search uses. -/
def lowerSimple (c : Char) : Char :=
  if c.toNat < 0x80 then c.toLower
  else if c = 'İ' then 'i'
  else if c = 'Σ' then 'σ'
  else mapByRuns CaseTable.lowerRuns c

/-- The lower-case form of one character other than a capital sigma. -/
def lowerChar (c : Char) : List Char :=
  if c = 'İ' then ['i', '\u0307'] else [lowerSimple c]

/-- Lowers the rest of a text; `afterCased` says whether the last character before it that is not
passed over is a letter with case. -/
def lowerFrom (afterCased : Bool) : List CodePoint → List CodePoint
  | [] => []
  | c :: rest =>
    let form : List CodePoint :=
      if c = 'Σ' then [if afterCased && !startsCased rest then 'ς' else 'σ']
      else expand lowerChar c
    form ++ lowerFrom (if c.is isCaseIgnorable then afterCased else c.is isCased) rest

/-- The lower-case form of a text. -/
def lower (t : Text) : Text := ⟨lowerFrom false t.toList⟩

/-! ### Search ignoring case -/

/-- Whether a search for a character that ignores case accepts another one. -/
def sameCharIgnoringCase (wanted found : Char) : Bool :=
  let w := lowerSimple wanted
  let f := lowerSimple found
  w == f ||
    match CaseTable.folds.find? (·.1 == w.toNat) with
    | some (_, others) => others.contains f.toNat
    | none => false

/-- Whether a search for `wanted` that ignores case accepts `found`. -/
def sameIgnoringCase : CodePoint → CodePoint → Bool
  | .char wanted, .char found => sameCharIgnoringCase wanted found
  | wanted, found => wanted == found

theorem sameIgnoringCase_refl (c : CodePoint) : sameIgnoringCase c c = true := by
  cases c <;> simp [sameIgnoringCase, sameCharIgnoringCase]

end Gridwork.Text
