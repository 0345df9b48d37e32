import Gridwork.Number.Binary64
import Mathlib.Order.Lattice
import Mathlib.Tactic.Ring

/-!
# Whole numbers that fit a double

`Binary64.ofInt?` rounds a whole number to the nearest double and gives none if that is infinite.
`ofInt?_isSome_iff` says for which numbers there is one: those of absolute value below
`2 ^ 1024 - 2 ^ 970`. This bound lies halfway between the largest finite double and `2 ^ 1024`; it
would itself be rounded to the even one of the two, which is the infinite one.
-/

namespace Gridwork

/-! ### Rounding -/

theorem roundHalfEven_le {num den k : Nat} (hden : 0 < den) (h : num ≤ k * den) :
    roundHalfEven num den ≤ k := by
  unfold roundHalfEven
  have hdiv : num / den ≤ k := Nat.div_le_of_le_mul (by rwa [Nat.mul_comm])
  dsimp only
  split
  · -- rounding up needs a remainder, so the quotient is below `k`
    rename_i hup
    have hrem : num % den ≠ 0 := by omega
    have hne : num / den ≠ k := by
      rintro rfl
      have hsplit := Nat.div_add_mod' num den
      omega
    omega
  · exact hdiv

theorem le_roundHalfEven {num den k : Nat} (hden : 0 < den) (h : k * den ≤ num) :
    k ≤ roundHalfEven num den := by
  unfold roundHalfEven
  have hdiv : k ≤ num / den := (Nat.le_div_iff_mul_le hden).mpr h
  dsimp only
  split
  · exact Nat.le_succ_of_le hdiv
  · exact hdiv

/-- A quotient is rounded to less than an even number if it is more than a half below it. -/
theorem roundHalfEven_lt_iff {num den k : Nat} (hden : 0 < den) (hk : k % 2 = 0) (hpos : 0 < k) :
    roundHalfEven num den < k ↔ 2 * num < (2 * k - 1) * den := by
  obtain ⟨j, rfl⟩ : ∃ j, k = j + 1 := ⟨k - 1, by omega⟩
  have hsplit := Nat.div_add_mod' num den
  have hmod := Nat.mod_lt num hden
  have hbound : (2 * (j + 1) - 1) * den = 2 * (j * den) + den := by
    rw [show 2 * (j + 1) - 1 = 2 * j + 1 by omega]
    ring
  rw [hbound]
  unfold roundHalfEven
  dsimp only
  -- the quotient is compared with the odd number below `k`
  rcases Nat.lt_trichotomy (num / den) j with hlt | heq | hgt
  · have hle : (num / den + 1) * den ≤ j * den := Nat.mul_le_mul_right den hlt
    rw [Nat.add_mul] at hle
    have hround : (if den < 2 * (num % den) ∨ 2 * (num % den) = den ∧ num / den % 2 = 1
        then num / den + 1 else num / den) ≤ j := by
      split <;> omega
    omega
  · have hodd : num / den % 2 = 1 := by omega
    rw [heq] at hsplit hodd ⊢
    split <;> omega
  · have hle : (j + 1) * den ≤ num / den * den := Nat.mul_le_mul_right den hgt
    rw [Nat.add_mul] at hle
    have hround : j + 1 ≤ (if den < 2 * (num % den) ∨ 2 * (num % den) = den ∧ num / den % 2 = 1
        then num / den + 1 else num / den) := by
      split <;> omega
    omega

namespace Binary64

/-! ### Magnitudes -/

theorem magnitude_ofMagnitude (negative : Bool) {m : Nat} (h : m < 2 ^ 63) :
    (ofMagnitude negative m).magnitude = m := by
  unfold magnitude ofMagnitude
  simp only [Nat.pow_eq, UInt64.toNat_ofNat']
  cases negative with
  | true =>
    simp only [if_true]
    omega
  | false =>
    simp only [Bool.false_eq_true, if_false]
    omega

/-- The magnitude of a positive whole number: its leading bit decides the exponent. -/
theorem magnitudeOfRatio_one {n : Nat} (hn : n ≠ 0) :
    magnitudeOfRatio n 1 = min infinite ((n.log2 + 1022) * 2 ^ 52
      + roundHalfEven (n * 2 ^ (52 - n.log2)) (2 ^ (n.log2 - 52))) := by
  have hone : Nat.log2 1 = 0 := by decide
  have hlow : max ((n.log2 : Int) - Nat.log2 1 - 53) (-1074) = (n.log2 : Int) - 53 := by
    rw [hone]
    omega
  -- with the lower exponent the quotient has one bit too many
  have hlong : 2 ^ 53 ≤ n * 2 ^ (53 - n.log2) / 2 ^ (n.log2 - 53) := by
    rw [Nat.le_div_iff_mul_le (Nat.two_pow_pos _), ← Nat.pow_add]
    calc 2 ^ (53 + (n.log2 - 53)) = 2 ^ n.log2 * 2 ^ (53 - n.log2) := by
          rw [← Nat.pow_add]
          congr 1
          omega
      _ ≤ n * 2 ^ (53 - n.log2) := Nat.mul_le_mul_right _ (Nat.log2_self_le hn)
  have hdown : (-((n.log2 : Int) - 53)).toNat = 53 - n.log2 := by omega
  have hup : ((n.log2 : Int) - 53).toNat = n.log2 - 53 := by omega
  have hdown' : (-((n.log2 : Int) - 53 + 1)).toNat = 52 - n.log2 := by omega
  have hup' : ((n.log2 : Int) - 53 + 1).toNat = n.log2 - 52 := by omega
  have hexp : ((n.log2 : Int) - 53 + 1 + 1074).toNat = n.log2 + 1022 := by omega
  unfold magnitudeOfRatio scaled
  rw [if_neg hn, hlow]
  simp only [Nat.pow_eq, Nat.one_mul, hdown, hup, if_pos hlong, hdown', hup', hexp]

/-- **Which whole numbers round to a finite magnitude.** -/
theorem magnitudeOfRatio_one_lt_iff (n : Nat) :
    magnitudeOfRatio n 1 < infinite ↔ n < 2 ^ 1024 - 2 ^ 970 := by
  by_cases hn : n = 0
  · subst hn
    exact iff_of_true (by decide) (by decide +kernel)
  have hlow : 2 ^ n.log2 ≤ n := Nat.log2_self_le hn
  have hhigh : n < 2 ^ (n.log2 + 1) := Nat.lt_log2_self
  have hinfinite : infinite = 2047 * 2 ^ 52 := rfl
  rw [magnitudeOfRatio_one hn, min_lt_iff, or_iff_right (Nat.lt_irrefl _), hinfinite]
  have hden : 0 < 2 ^ (n.log2 - 52) := Nat.two_pow_pos _
  -- below the last exponent every number fits, beyond it none does
  rcases Nat.lt_trichotomy n.log2 1023 with hlt | heq | hgt
  · have hround : roundHalfEven (n * 2 ^ (52 - n.log2)) (2 ^ (n.log2 - 52)) ≤ 2 ^ 53 := by
      refine roundHalfEven_le hden ?_
      calc n * 2 ^ (52 - n.log2) ≤ 2 ^ (n.log2 + 1) * 2 ^ (52 - n.log2) :=
            Nat.mul_le_mul_right _ hhigh.le
        _ = 2 ^ 53 * 2 ^ (n.log2 - 52) := by
            rw [← Nat.pow_add, ← Nat.pow_add]
            congr 1
            omega
    have hfinite : (n.log2 + 1022) * 2 ^ 52
        + roundHalfEven (n * 2 ^ (52 - n.log2)) (2 ^ (n.log2 - 52)) < 2047 * 2 ^ 52 := by
      omega
    have hpow : 2 ^ (n.log2 + 1) ≤ 2 ^ 1023 := pow_le_pow_right₀ (by decide) hlt
    have hbound : n < 2 ^ 1023 := hhigh.trans_le hpow
    have hhalf : 2 ^ 1023 ≤ 2 ^ 1024 - 2 ^ 970 := by decide +kernel
    exact iff_of_true hfinite (Nat.lt_of_lt_of_le hbound hhalf)
  · rw [heq] at hden ⊢
    have hsplit : (1023 + 1022) * 2 ^ 52 + roundHalfEven (n * 2 ^ (52 - 1023)) (2 ^ (1023 - 52))
        < 2047 * 2 ^ 52 ↔ roundHalfEven (n * 2 ^ (52 - 1023)) (2 ^ (1023 - 52)) < 2 ^ 53 := by
      omega
    rw [hsplit, roundHalfEven_lt_iff hden (by decide) (by decide)]
    have hbound : (2 * 2 ^ 53 - 1) * 2 ^ (1023 - 52) = 2 * (2 ^ 1024 - 2 ^ 970) := by
      decide +kernel
    rw [hbound, show 52 - 1023 = 0 from rfl, Nat.pow_zero, Nat.mul_one]
    exact Nat.mul_lt_mul_left (by decide)
  · have hround : 2 ^ 52 ≤ roundHalfEven (n * 2 ^ (52 - n.log2)) (2 ^ (n.log2 - 52)) := by
      refine le_roundHalfEven hden ?_
      calc 2 ^ 52 * 2 ^ (n.log2 - 52) = 2 ^ n.log2 := by
            rw [← Nat.pow_add]
            congr 1
            omega
        _ ≤ n := hlow
        _ = n * 2 ^ (52 - n.log2) := by
            rw [Nat.sub_eq_zero_of_le (by omega), Nat.pow_zero, Nat.mul_one]
    have hpow : 2 ^ 1024 ≤ 2 ^ n.log2 := pow_le_pow_right₀ (by decide) hgt
    have hbound : 2 ^ 1024 ≤ n := hpow.trans hlow
    refine iff_of_false (by omega) (Nat.not_lt.mpr ?_)
    exact (Nat.sub_le _ _).trans hbound

/-- **Which whole numbers fit a double.** -/
theorem ofInt?_isSome_iff (n : Int) :
    (ofInt? n).isSome = true ↔ n.natAbs < 2 ^ 1024 - 2 ^ 970 := by
  rw [← magnitudeOfRatio_one_lt_iff]
  have hinfinite : infinite < 2 ^ 63 := by decide
  have hmagnitude : (ofRatio (n < 0) n.natAbs 1).magnitude = magnitudeOfRatio n.natAbs 1 := by
    refine magnitude_ofMagnitude _ (Nat.lt_of_le_of_lt ?_ hinfinite)
    -- no magnitude exceeds that of infinity
    unfold magnitudeOfRatio
    split
    · exact Nat.zero_le _
    · exact Nat.min_le_left _ _
  unfold ofInt?
  dsimp only
  rw [isFinite, hmagnitude]
  by_cases h : magnitudeOfRatio n.natAbs 1 < infinite
  · simp only [h, decide_true, if_true, Option.isSome_some]
  · simp only [h, decide_false, Bool.false_eq_true, if_false, Option.isSome_none]

end Binary64

end Gridwork
