import Gridwork.Text.Utf8
import Mathlib.Data.List.Basic

/-!
# Texts and their octets

Every character is read back from its octets, whatever follows them (`step_encodeChar`), and so is
every text (`decode_encode`). The ranges that reading refuses are those of the long forms, of
halves of pairs and of code points beyond the last, and writing gives none of them:
`stepTwo_encode`, `stepThree_encode` and `stepFour_encode` say so for one length each, in plain
arithmetic.
-/

namespace Gridwork.Text.Utf8

variable {n k : Nat} {b : UInt8} {rest : List UInt8}

/-! ### Octets as numbers -/

/-- The octet of a small number is that number. -/
theorem toNat_toUInt8 (h : n < 0x100) : n.toUInt8.toNat = n := UInt8.toNat_ofNat_of_lt' h

theorem isContinuation_iff : isContinuation b = true ↔ 0x80 ≤ b.toNat ∧ b.toNat < 0xC0 := by
  simp [isContinuation, UInt8.le_iff_toNat_le, UInt8.lt_iff_toNat_lt]

theorem isContinuation_toUInt8 (h : k < 0x40) : isContinuation (0x80 + k).toUInt8 = true := by
  rw [isContinuation_iff, toNat_toUInt8 (by omega)]
  omega

theorem payload_toUInt8 (h : k < 0x40) : payload (0x80 + k).toUInt8 = k := by
  rw [payload, toNat_toUInt8 (by omega)]
  omega

/-- Which second octets are refused, in numbers. -/
theorem mayFollow_iff {first second : UInt8} :
    mayFollow first second = true ↔ isContinuation second = true ∧
      (first.toNat = 0xE0 → 0xA0 ≤ second.toNat) ∧ (first.toNat = 0xED → second.toNat < 0xA0) ∧
      (first.toNat = 0xF0 → 0x90 ≤ second.toNat) ∧ (first.toNat = 0xF4 → second.toNat < 0x90) := by
  simp only [mayFollow, Bool.and_eq_true, Bool.not_eq_true', Bool.and_eq_false_imp, beq_iff_eq,
    decide_eq_false_iff_not, ← UInt8.toNat_inj, UInt8.le_iff_toNat_le, UInt8.lt_iff_toNat_lt,
    Nat.not_lt, Nat.not_le, and_assoc]
  rfl

/-- Reading by the range that the first octet lies in. -/
theorem step_toUInt8 (halves : Bool) (h : n < 0x100) :
    step halves n.toUInt8 rest =
      if n < 0x80 then .point (Char.ofNat n) 0
      else if n < 0xC2 then .bad 1 .invalidStart
      else if n < 0xE0 then stepTwo n.toUInt8 rest
      else if n < 0xF0 then stepThree halves n.toUInt8 rest
      else if n < 0xF5 then stepFour n.toUInt8 rest
      else .bad 1 .invalidStart := by
  simp only [step, UInt8.lt_iff_toNat_lt, toNat_toUInt8 h]
  rfl

/-- A character lies below the halves or above them. -/
theorem toNat_lt_or (c : Char) : c.toNat < 0xD800 ∨ 0xDFFF < c.toNat ∧ c.toNat < 0x110000 := c.valid

/-! ### Characters of two, three and four octets -/

theorem stepTwo_encode (h : n < 0x800) (rest : List UInt8) :
    stepTwo (0xC0 + n / 0x40).toUInt8 ((0x80 + n % 0x40).toUInt8 :: rest)
      = .point (Char.ofNat n) 1 := by
  have hlast : n % 0x40 < 0x40 := Nat.mod_lt _ (by decide)
  have hvalue : (0xC0 + n / 0x40) % 0x20 * 0x40 + n % 0x40 = n := by omega
  rw [stepTwo, if_pos (isContinuation_toUInt8 hlast), payload_toUInt8 hlast,
    toNat_toUInt8 (by omega), hvalue]

theorem stepThree_encode (halves : Bool) (hlow : 0x800 ≤ n) (h : n < 0x10000)
    (hscalar : n < 0xD800 ∨ 0xDFFF < n) (rest : List UInt8) :
    stepThree halves (0xE0 + n / 0x1000).toUInt8
      ((0x80 + n / 0x40 % 0x40).toUInt8 :: (0x80 + n % 0x40).toUInt8 :: rest)
      = .point (Char.ofNat n) 2 := by
  have hmiddle : n / 0x40 % 0x40 < 0x40 := Nat.mod_lt _ (by decide)
  have hlast : n % 0x40 < 0x40 := Nat.mod_lt _ (by decide)
  -- the shortest form is used, and no half is spelt
  have hfollow : mayFollow (0xE0 + n / 0x1000).toUInt8 (0x80 + n / 0x40 % 0x40).toUInt8 = true := by
    rw [mayFollow_iff, toNat_toUInt8 (by omega), toNat_toUInt8 (by omega)]
    refine ⟨isContinuation_toUInt8 hmiddle, ?_, ?_, ?_, ?_⟩ <;> omega
  have hvalue : (0xE0 + n / 0x1000) % 0x10 * 0x1000 + n / 0x40 % 0x40 * 0x40 + n % 0x40 = n := by
    omega
  rw [stepThree, if_pos hfollow, if_pos (isContinuation_toUInt8 hlast), spelledThree,
    payload_toUInt8 hmiddle, payload_toUInt8 hlast, toNat_toUInt8 (by omega), hvalue]

theorem stepFour_encode (hlow : 0x10000 ≤ n) (h : n < 0x110000) (rest : List UInt8) :
    stepFour (0xF0 + n / 0x40000).toUInt8
      ((0x80 + n / 0x1000 % 0x40).toUInt8 :: (0x80 + n / 0x40 % 0x40).toUInt8
        :: (0x80 + n % 0x40).toUInt8 :: rest)
      = .point (Char.ofNat n) 3 := by
  have hsecond : n / 0x1000 % 0x40 < 0x40 := Nat.mod_lt _ (by decide)
  have hthird : n / 0x40 % 0x40 < 0x40 := Nat.mod_lt _ (by decide)
  have hlast : n % 0x40 < 0x40 := Nat.mod_lt _ (by decide)
  have hfollow :
      mayFollow (0xF0 + n / 0x40000).toUInt8 (0x80 + n / 0x1000 % 0x40).toUInt8 = true := by
    rw [mayFollow_iff, toNat_toUInt8 (by omega), toNat_toUInt8 (by omega)]
    refine ⟨isContinuation_toUInt8 hsecond, ?_, ?_, ?_, ?_⟩ <;> omega
  have hvalue : (0xF0 + n / 0x40000) % 0x8 * 0x40000 + n / 0x1000 % 0x40 * 0x1000
      + n / 0x40 % 0x40 * 0x40 + n % 0x40 = n := by
    omega
  rw [stepFour, if_pos hfollow, if_pos (isContinuation_toUInt8 hthird),
    if_pos (isContinuation_toUInt8 hlast), payload_toUInt8 hsecond, payload_toUInt8 hthird,
    payload_toUInt8 hlast, toNat_toUInt8 (by omega), hvalue]

/-! ### Characters and texts -/

/-- A character is read where it was written, whatever follows it. -/
theorem step_encodeChar (halves : Bool) (c : Char) (rest : List UInt8) :
    ∃ first more, encodeChar c = first :: more ∧
      step halves first (more ++ rest) = .point c more.length := by
  have hscalar := toNat_lt_or c
  have hback : Char.ofNat c.toNat = c := Char.ofNat_toNat c
  unfold encodeChar
  dsimp only
  -- by the number of octets that the character takes
  split
  · next h =>
    refine ⟨_, _, rfl, ?_⟩
    rw [step_toUInt8 halves (by omega), if_pos h, hback]
    rfl
  split
  · next h1 h2 =>
    refine ⟨_, _, rfl, ?_⟩
    rw [step_toUInt8 halves (by omega), if_neg (by omega), if_neg (by omega),
      if_pos (by omega)]
    have hread := stepTwo_encode h2 rest
    rwa [hback] at hread
  split
  · next h2 h3 =>
    refine ⟨_, _, rfl, ?_⟩
    rw [step_toUInt8 halves (by omega), if_neg (by omega), if_neg (by omega),
      if_neg (by omega), if_pos (by omega)]
    have hread := stepThree_encode halves (n := c.toNat) (by omega) h3 (by omega) rest
    rwa [hback] at hread
  · next h3 =>
    refine ⟨_, _, rfl, ?_⟩
    rw [step_toUInt8 halves (by omega), if_neg (by omega), if_neg (by omega),
      if_neg (by omega), if_neg (by omega), if_pos (by omega)]
    have hread := stepFour_encode (n := c.toNat) (by omega) (by omega) rest
    rwa [hback] at hread

theorem decodeFrom_encode (halves : Bool) (start : Nat) (done : List CodePoint) (cs : List Char) :
    decodeFrom halves start done (encode cs) = .ok (done.reverse ++ cs.map .char) := by
  induction cs generalizing start done with
  | nil => rw [encode, List.flatMap_nil, decodeFrom, List.map_nil, List.append_nil]
  | cons c cs ih =>
    obtain ⟨first, more, hchar, hstep⟩ := step_encodeChar halves c (encode cs)
    have hoctets : encode (c :: cs) = first :: (more ++ encode cs) := by
      rw [encode, List.flatMap_cons, hchar]
      rfl
    rw [hoctets, decodeFrom, hstep]
    dsimp only
    rw [List.drop_left, ih, List.reverse_cons, List.append_assoc, List.singleton_append,
      List.map_cons]

/-- **A text is read back from its octets.** -/
theorem decode_encode (cs : List Char) : decode (encode cs) = .ok cs := by
  have hchars : (cs.map CodePoint.char).filterMap CodePoint.char? = cs := by
    rw [List.filterMap_map]
    exact List.filterMap_some
  rw [decode, decodeFrom_encode, List.reverse_nil, List.nil_append, Except.map, hchars]

end Gridwork.Text.Utf8
