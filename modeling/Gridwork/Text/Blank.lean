/-!
# Blank characters

Two sets of blanks are in use. `isBlank` is the wide one, every separator and the control characters
that separate; `isWhiteSpace` leaves out the four information separators U+001C to U+001F.
-/

namespace Gridwork.Text

/-- White space of Unicode. -/
def isWhiteSpace (c : Char) : Bool :=
  let n := c.toNat
  (0x9 ≤ n && n ≤ 0xd) || n == 0x20 || n == 0x85 || n == 0xa0 || n == 0x1680
    || (0x2000 ≤ n && n ≤ 0x200a) || n == 0x2028 || n == 0x2029 || n == 0x202f || n == 0x205f
    || n == 0x3000

/-- White space and the information separators. -/
def isBlank (c : Char) : Bool := isWhiteSpace c || (0x1c ≤ c.toNat && c.toNat ≤ 0x1f)

/-- A text without the characters of a class at its end. -/
def trimEndChars (p : Char → Bool) (cs : List Char) : List Char :=
  (cs.reverse.dropWhile p).reverse

/-- A text without the characters of a class at its start and end. -/
def trimChars (p : Char → Bool) (cs : List Char) : List Char := trimEndChars p (cs.dropWhile p)

example (c : Char) : c.isWhitespace = true → isBlank c = true := by
  intro h
  simp only [Char.isWhitespace, Bool.or_eq_true, decide_eq_true_eq] at h
  rcases h with ((h | h) | h) | h <;> subst h <;> decide

end Gridwork.Text
