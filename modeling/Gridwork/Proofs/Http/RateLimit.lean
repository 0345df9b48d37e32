import Gridwork.Http.RateLimit
import Gridwork.Proofs.Number.Numeral

/-!
# A limit and its counter

A text allows a number of calls (`RateLimit.Allows`) if it names one limit with that number and a
window whose end a clock can tell. Texts such as `60/minute` do: `RateLimit.allows_perUnit`.

A single limit has a single counter. Every hit counts, also those that are refused, and a hit is
refused exactly if more calls have been counted with it than the limit allows
(`Tally.count_hit`, `Tally.hit_allowed`, `Tally.hit_refused`).
-/

namespace Gridwork.Http

namespace RateLimit

/-- A text that allows a number of calls within a window. -/
def Allows (text : String) (n : Nat) : Prop :=
  ∃ limit, readAll text = [limit] ∧ limit.amount = n ∧ limit.isMeasurable = true

/-! ### Reading a number of calls per unit -/

theorem isBlank_of_isDigit {c : Char} (h : c.isDigit = true) : Text.isBlank c = false := by
  have hbounds : 48 ≤ c.toNat ∧ c.toNat ≤ 57 := by
    rw [Char.isDigit, Bool.and_eq_true, decide_eq_true_eq, decide_eq_true_eq] at h
    exact h
  simp only [Text.isBlank, Text.isWhiteSpace, Bool.or_eq_false_iff, Bool.and_eq_false_iff,
    decide_eq_false_iff_not, beq_eq_false_iff_ne]
  omega

theorem isSeparator_of_isDigit {c : Char} (h : c.isDigit = true) : isSeparator c = false := by
  have hne : ∀ d : Char, d.isDigit = false → c ≠ d := by
    rintro d hd rfl
    rw [hd] at h
    cases h
  have hcomma := hne ',' (by decide)
  have hsemicolon := hne ';' (by decide)
  have hbar := hne '|' (by decide)
  simp [isSeparator, hcomma, hsemicolon, hbar]

/-- A number is read up to a slash. -/
theorem readDigits?_toString {n : Nat} (h : (toString n).toList.length ≤ Whole.maxDigits)
    (behind : List Char) :
    readDigits? ((toString n).toList ++ '/' :: behind) = some (n, '/' :: behind) := by
  have hdigits : ∀ c ∈ (toString n).toList, c.isDigit = true :=
    fun c hc => isDigit_of_mem_toString hc
  have hslash : ¬ '/'.isDigit = true := by decide
  have htaken : ((toString n).toList ++ '/' :: behind).takeWhile Char.isDigit
      = (toString n).toList := by
    rw [List.takeWhile_append_of_pos hdigits, List.takeWhile_cons_of_neg hslash, List.append_nil]
  have hleft : ((toString n).toList ++ '/' :: behind).dropWhile Char.isDigit = '/' :: behind := by
    rw [List.dropWhile_append_of_pos hdigits, List.dropWhile_cons_of_neg hslash]
  have hnonempty : (toString n).toList.isEmpty = false := by
    obtain ⟨c, rest, hcons, -⟩ := exists_toList_toString_eq_cons n
    rw [hcons]
    rfl
  have hbound : decide (Whole.maxDigits < (toString n).toList.length) = false :=
    decide_eq_false (Nat.not_lt.mpr h)
  have hvalue : Text.natOfDigits ((toString n).toList.filterMap Text.asciiDigit?) = n :=
    Text.natOfDigits_toString (fun _ => Text.asciiDigit?_of_isDigit) n
  rw [readDigits?, htaken, hleft, hnonempty, hbound, hvalue]
  rfl

theorem read?_perUnit {n : Nat} (unit : TimeUnit)
    (h : (toString n).toList.length ≤ Whole.maxDigits) :
    read? ((toString n).toList ++ '/' :: unit.name.toList) = some ⟨n, 1, unit⟩ := by
  have hskip : skipBlanks ((toString n).toList ++ '/' :: unit.name.toList)
      = (toString n).toList ++ '/' :: unit.name.toList := by
    obtain ⟨c, rest, hcons, hdigit⟩ := exists_toList_toString_eq_cons n
    rw [hcons, List.cons_append, skipBlanks, List.dropWhile_cons_of_neg]
    rw [isBlank_of_isDigit hdigit]
    exact Bool.false_ne_true
  rw [read?, hskip, readDigits?_toString h]
  -- what comes behind the number is one of six words
  cases unit <;> rfl

/-- **A number of calls per unit of time is allowed**, as long as the number is not too long. -/
theorem allows_perUnit {n : Nat} (unit : TimeUnit)
    (h : (toString n).toList.length ≤ Whole.maxDigits) :
    Allows (toString n ++ "/" ++ unit.name) n := by
  have hlist : (toString n ++ "/" ++ unit.name).toList
      = (toString n).toList ++ '/' :: unit.name.toList := by
    rw [String.toList_append, String.toList_append, List.append_assoc]
    rfl
  have hname : ('/' :: unit.name.toList).all (fun c => isSeparator c == false) = true := by
    cases unit <;> rfl
  have hwhole : ∀ c ∈ (toString n).toList ++ '/' :: unit.name.toList, isSeparator c = false := by
    intro c hc
    rcases List.mem_append.mp hc with hc | hc
    · exact isSeparator_of_isDigit (isDigit_of_mem_toString hc)
    · exact beq_iff_eq.mp (List.all_eq_true.mp hname c hc)
  refine ⟨⟨n, 1, unit⟩, ?_, rfl, ?_⟩
  · rw [readAll, hlist, Text.splitWhere_eq_singleton hwhole, readPieces?, read?_perUnit unit h]
    rfl
  · dsimp only [isMeasurable, window]
    cases unit <;> decide +kernel

end RateLimit

/-! ### Counting -/

namespace Tally

variable {t : Tally} {limit : RateLimit} (hlimit : limit.isMeasurable = true)
include hlimit

/-- A hit counts once, whatever becomes of it. -/
theorem count_hit : (t.hit [limit]).1.count limit = t.count limit + 1 := by
  rw [hit, if_pos hlimit]
  dsimp only
  split
  · exact count_add_self t limit
  · exact count_add_self t limit

theorem hit_allowed (h : t.count limit < limit.amount) : (t.hit [limit]).2 = .allowed := by
  have hwithin : (t.add limit).count limit ≤ limit.amount := by
    rw [count_add_self]
    exact h
  rw [hit, if_pos hlimit]
  dsimp only
  rw [if_pos hwithin, hit]

theorem hit_refused (h : limit.amount ≤ t.count limit) : (t.hit [limit]).2 = .refused := by
  have hbeyond : ¬ (t.add limit).count limit ≤ limit.amount := by
    rw [count_add_self]
    exact Nat.not_le.mpr (Nat.lt_succ_of_le h)
  rw [hit, if_pos hlimit]
  dsimp only
  rw [if_neg hbeyond]

end Tally

end Gridwork.Http
