import Gridwork.Text.Case
import Gridwork.Text.Percent
import Mathlib.Data.List.Basic

/-!
# ASCII texts

What is intricate about texts is easy in ASCII: the lower-case form is had letter by letter
(`Text.lowerFrom_of_ascii`), a character is one octet (`Text.Utf8.encodeChar_of_ascii`), and a text
of letters, digits and the marks that stand for themselves is written as it is where texts are
percent-encoded (`Text.Percent.encode_of_unreserved`).
-/

namespace Gridwork.Text

/-- What holds of the first code points holds of a character of ASCII. -/
theorem of_forall_ascii {P : Char → Prop} (h : ∀ n < 0x80, P (Char.ofNat n)) {c : Char}
    (hc : c.toNat < 0x80) : P c := by
  have hP := h c.toNat hc
  rwa [Char.ofNat_toNat] at hP

/-- A text of ASCII characters. -/
def IsAscii (s : String) : Prop := ∀ c ∈ s.toList, c.toNat < 0x80

instance (s : String) : Decidable (IsAscii s) :=
  List.decidableBAll (fun c : Char => c.toNat < 0x80) s.toList

theorem IsAscii.append {s t : String} (hs : IsAscii s) (ht : IsAscii t) : IsAscii (s ++ t) := by
  unfold IsAscii
  rw [String.toList_append, List.forall_mem_append]
  exact ⟨hs, ht⟩

/-! ### Lower case -/

theorem lowerChar_of_ascii {c : Char} (hc : c.toNat < 0x80) : lowerChar c = [c.toLower] := by
  have hdotted : c ≠ 'İ' := by
    rintro rfl
    exact absurd hc (by decide)
  rw [lowerChar, if_neg hdotted, lowerSimple, if_pos hc]

theorem lowerFrom_of_ascii {cs : List Char} (h : ∀ c ∈ cs, c.toNat < 0x80) (afterCased : Bool) :
    lowerFrom afterCased (cs.map .char) = cs.map fun c => .char c.toLower := by
  induction cs generalizing afterCased with
  | nil => rfl
  | cons c cs ih =>
    obtain ⟨hc, hcs⟩ := List.forall_mem_cons.mp h
    -- only for a sigma it matters what stands around it
    have hsigma : CodePoint.char c ≠ 'Σ' := by
      intro h
      rw [CodePoint.char.inj h] at hc
      exact absurd hc (by decide)
    rw [List.map_cons, lowerFrom, if_neg hsigma, expand, lowerChar_of_ascii hc, ih hcs]
    rfl

/-! ### Octets -/

theorem Utf8.encodeChar_of_ascii {c : Char} (hc : c.toNat < 0x80) :
    Utf8.encodeChar c = [c.toNat.toUInt8] := by
  rw [Utf8.encodeChar, if_pos hc]

namespace Percent

/-- A character that stands for itself. -/
structure Unreserved (c : Char) : Prop where
  ascii : c.toNat < 0x80
  kind : (c.isAlphanum || "_.-~/".toList.contains c) = true

/-- The octet of such a character is written as the character. -/
theorem encodeOctet_of_unreserved {c : Char} (h : Unreserved c) :
    encodeOctet c.toNat.toUInt8 = [c] := by
  have hvalue : c.toNat.toUInt8.toNat = c.toNat :=
    UInt8.toNat_ofNat_of_lt' (Nat.lt_trans h.ascii (by decide))
  have hback : Char.ofNat c.toNat.toUInt8.toNat = c := by rw [hvalue, Char.ofNat_toNat]
  have hsmall : c.toNat.toUInt8 < 0x80 := by
    rw [UInt8.lt_iff_toNat_lt, hvalue]
    exact h.ascii
  have hstands : isUnreserved c.toNat.toUInt8 = true := by
    unfold isUnreserved
    dsimp only
    rw [hback, h.kind, decide_eq_true hsmall, Bool.and_self]
  rw [encodeOctet, if_pos hstands, hback]

/-- **A text of such characters is written as it is.** -/
theorem encode_of_unreserved {cs : List Char} (h : ∀ c ∈ cs, Unreserved c) : encode cs = cs := by
  induction cs with
  | nil => rfl
  | cons c cs ih =>
    obtain ⟨hc, hcs⟩ := List.forall_mem_cons.mp h
    calc encode (c :: cs)
        = (Utf8.encodeChar c).flatMap encodeOctet ++ encode cs := by
          rw [encode, Utf8.encode, List.flatMap_cons, List.flatMap_append]
          rfl
      _ = encodeOctet c.toNat.toUInt8 ++ cs := by
          rw [Utf8.encodeChar_of_ascii hc.ascii, List.flatMap_singleton, ih hcs]
      _ = c :: cs := by rw [encodeOctet_of_unreserved hc, List.singleton_append]

end Percent

end Gridwork.Text
