import Gridwork.Text.Basic
import Gridwork.Text.Digit
import Gridwork.Text.Hex

/-!
# Numbers written down and read back

A number is written down with ASCII digits only (`isDigit_of_mem_toString`), and whoever adds up the
values of these digits from the left gets the number back (`Text.natOfDigits_toString`). So two
numbers that look the same are the same. In base sixteen a small number has as many digits as there
is room for, and they are read back one by one (`Text.exists_hexDigits_four`).
-/

namespace Gridwork

theorem toList_toString (n : Nat) : (toString n).toList = Nat.toDigits 10 n := by
  rw [Nat.toString_eq_ofList_toDigits, String.toList_ofList]

/-- A number is written with digits. -/
theorem isDigit_of_mem_toString {n : Nat} {c : Char} (h : c ∈ (toString n).toList) :
    c.isDigit = true := by
  rw [toList_toString] at h
  exact Nat.isDigit_of_mem_toDigits (by decide) (by decide) h

theorem isDigit_of_mem_ofString_toString {n : Nat} {c : CodePoint}
    (h : c ∈ (Text.ofString (toString n)).toList) : c.isDigit = true := by
  obtain ⟨d, hd, rfl⟩ := List.mem_map.mp h
  exact isDigit_of_mem_toString hd

/-- A number begins with a digit. -/
theorem exists_toDigits_eq_digit_cons (n : Nat) :
    ∃ c rest, Nat.toDigits 10 n = c :: rest ∧ c.isDigit = true := by
  obtain ⟨c, rest, hcons⟩ := List.exists_cons_of_ne_nil (Nat.toDigits_ne_nil (b := 10) (n := n))
  have hmem : c ∈ Nat.toDigits 10 n := by
    rw [hcons]
    exact List.mem_cons_self
  exact ⟨c, rest, hcons, Nat.isDigit_of_mem_toDigits (by decide) (by decide) hmem⟩

theorem exists_toList_toString_eq_cons (n : Nat) :
    ∃ c rest, (toString n).toList = c :: rest ∧ c.isDigit = true := by
  rw [toList_toString]
  exact exists_toDigits_eq_digit_cons n

/-- Of a number other than zero the first digit is not zero. -/
theorem exists_toDigits_eq_cons {n : Nat} (h : n ≠ 0) :
    ∃ c rest, Nat.toDigits 10 n = c :: rest ∧ c ≠ '0' := by
  induction n using Nat.strongRecOn with
  | ind n ih =>
    rw [Nat.toDigits_eq_if (by decide)]
    by_cases hlow : n < 10
    · rw [if_pos hlow]
      exact ⟨_, [], rfl, mt Nat.digitChar_eq_zero.mp h⟩
    · -- the first digit is that of the quotient
      obtain ⟨c, rest, hcons, hc⟩ := ih (n / 10) (by omega) (by omega)
      rw [if_neg hlow, hcons]
      exact ⟨c, rest ++ [(n % 10).digitChar], rfl, hc⟩

/-- Two numbers that are written in the same way. -/
theorem eq_of_toString_eq {m n : Nat} (h : toString m = toString n) : m = n := by
  have hdigits : Nat.toDigits 10 m = Nat.toDigits 10 n := by
    have hlist := congrArg String.toList h
    rwa [toList_toString, toList_toString] at hlist
  have hnumber := congrArg (Nat.ofDigitChars 10 · 0) hdigits
  rwa [Nat.ofDigitChars_ten_toDigits, Nat.ofDigitChars_ten_toDigits] at hnumber

namespace Text

variable {digit? : Char → Option Nat}

theorem asciiDigit?_of_isDigit {c : Char} (h : c.isDigit = true) :
    asciiDigit? c = some (c.toNat - '0'.toNat) := by
  have hbounds : '0' ≤ c ∧ c ≤ '9' := by
    rw [Char.isDigit, Bool.and_eq_true, decide_eq_true_eq, decide_eq_true_eq] at h
    exact h
  rw [asciiDigit?, if_pos hbounds]

/-- ASCII digits come first among the digits of all scripts. -/
theorem decimalDigit?_of_isDigit {c : Char} (h : c.isDigit = true) :
    decimalDigit? c = some (c.toNat - '0'.toNat) := by
  have hlow : c.toNat < 0x80 := by
    rw [Char.isDigit, Bool.and_eq_true, decide_eq_true_eq, decide_eq_true_eq,
      UInt32.le_iff_toNat_le] at h
    exact Nat.lt_of_le_of_lt h.2 (by decide)
  rw [decimalDigit?, if_pos hlow, asciiDigit?_of_isDigit h]

/-- Digits are added up from the left. -/
theorem foldl_filterMap_digit? {digits : List Char}
    (h : ∀ c ∈ digits, digit? c = some (c.toNat - '0'.toNat)) (acc : Nat) :
    (digits.filterMap digit?).foldl (fun n d => 10 * n + d) acc
      = Nat.ofDigitChars 10 digits acc := by
  induction digits generalizing acc with
  | nil => rfl
  | cons c digits ih =>
    rw [List.filterMap_cons, h c List.mem_cons_self]
    exact ih (fun c hc => h c (List.mem_cons_of_mem _ hc)) _

/-- **A number can be read back**, by whatever reads its digits. -/
theorem natOfDigits_toString (h : ∀ c, c.isDigit = true → digit? c = some (c.toNat - '0'.toNat))
    (n : Nat) : natOfDigits ((toString n).toList.filterMap digit?) = n := by
  rw [natOfDigits, foldl_filterMap_digit? fun c hc => h c (isDigit_of_mem_toString hc),
    toList_toString]
  exact Nat.ofDigitChars_ten_toDigits

/-! ### Base sixteen -/

/-- A digit is read in lower case. -/
theorem hexDigit?_digitChar {d : Nat} (h : d < 16) : hexDigit? (Nat.digitChar d) = some d := by
  have hall : ∀ d < 16, hexDigit? (Nat.digitChar d) = some d := by decide
  exact hall d h

/-- A digit is read in upper case. -/
theorem hexDigit?_toUpper_digitChar {d : Nat} (h : d < 16) :
    hexDigit? (Nat.digitChar d).toUpper = some d := by
  have hall : ∀ d < 16, hexDigit? (Nat.digitChar d).toUpper = some d := by decide
  exact hall d h

/-- A number below sixteen is one digit. -/
theorem hexDigits_one {n : Nat} (h : n < 16) : hexDigits 1 n = [Nat.digitChar n] := by
  rw [hexDigits, Nat.toDigits_of_lt_base h]
  rfl

/-- The last digit is the remainder, and the digits before it are those of the quotient. -/
theorem hexDigits_succ (width n : Nat) :
    hexDigits (width + 2) n = hexDigits (width + 1) (n / 16) ++ [Nat.digitChar (n % 16)] := by
  unfold hexDigits
  rw [Nat.toDigits_eq_if (b := 16) (n := n) (by decide)]
  by_cases h : n < 16
  · -- the quotient is zero, and its digit is one of the zeros that fill up
    rw [if_pos h, Nat.div_eq_of_lt h, Nat.mod_eq_of_lt h]
    simp [List.replicate_succ']
  · rw [if_neg h]
    simp

theorem hexDigits_two {n : Nat} (h : n < 0x100) :
    hexDigits 2 n = [Nat.digitChar (n / 16), Nat.digitChar (n % 16)] := by
  rw [hexDigits_succ, hexDigits_one (by omega)]
  rfl

theorem hexDigits_four {n : Nat} (h : n < 0x10000) :
    hexDigits 4 n = [Nat.digitChar (n / 16 / 16 / 16), Nat.digitChar (n / 16 / 16 % 16),
      Nat.digitChar (n / 16 % 16), Nat.digitChar (n % 16)] := by
  rw [hexDigits_succ, hexDigits_succ, hexDigits_succ, hexDigits_one (by omega)]
  rfl

/-- **Four digits are read back**, whatever follows them. -/
theorem exists_hexDigits_four {n : Nat} (h : n < 0x10000) :
    ∃ a b c d, hexDigits 4 n = [a, b, c, d] ∧ hexQuad? a b c d = some n := by
  refine ⟨_, _, _, _, hexDigits_four h, ?_⟩
  rw [hexQuad?, hexDigit?_digitChar (by omega), hexDigit?_digitChar (by omega),
    hexDigit?_digitChar (by omega), hexDigit?_digitChar (by omega)]
  refine congrArg some ?_
  omega

end Text

end Gridwork
