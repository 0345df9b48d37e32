import Gridwork.Json.Reader
import Gridwork.Json.Writer
import Gridwork.Proofs.Lists
import Gridwork.Proofs.Number.Numeral
import Mathlib.Data.List.Chain

/-!
# Strings and whole numbers read back

The reader undoes the writer leaf by leaf. A code point within a string is written in one of four
ways (`Json.Escape`), and each is read as that code point, whatever comes behind it
(`Json.Escape.read`); the two halves of a character outside the basic plane become one character
again only at the second half. The reader cannot tell them from two halves that stood side by side
in the text, so a text is read back if no halves do that (`Text.Unsplit`). A string ends at its
closing quote, so nothing is asked of what follows it. A whole number ends where no digit stands any
more, so it is read back if something stands behind it that cannot belong to a number
(`Json.Delimited`).
-/

namespace Gridwork

/-! ### Halves side by side -/

/-- Two code points that are not the halves of one character. -/
def CodePoint.Apart : CodePoint → CodePoint → Prop
  | .high _, .low _ => False
  | _, _ => True

instance : DecidableRel CodePoint.Apart := fun c d => by
  unfold CodePoint.Apart
  split <;> infer_instance

/-- A text in which the halves of a character never stand side by side. -/
def Text.Unsplit (t : Text) : Prop := t.toList.IsChain CodePoint.Apart

instance (t : Text) : Decidable t.Unsplit := inferInstanceAs (Decidable (List.IsChain _ _))

theorem Text.unsplit_ofString (s : String) : Unsplit s := by
  rw [Unsplit, toList_ofString, List.isChain_map]
  exact List.Pairwise.isChain (List.pairwise_of_forall fun _ _ => trivial)

namespace Json

variable {start position : Nat} {opened : Option (Fin 1024)} {done rest : List CodePoint}
  {c : CodePoint}

/-! ### Strings -/

theorem readString_short {e d : Char} (he : shortEscape? e = some d) :
    readString start opened done position (.char '\\' :: .char e :: rest)
      = readString start none (.char d :: done) (position + 2) rest := by
  have hu : CodePoint.char e ≠ .char 'u' := by
    intro h
    rw [CodePoint.char.inj h] at he
    cases he
  have hescape : (CodePoint.char e).char?.bind shortEscape? = some d := he
  rw [readString, hescape]
  -- the escape is none by number
  · exact fun _ _ _ _ _ heq => absurd heq hu
  · exact hu

theorem readString_unit {a b d e : Char} {n : Nat} (hunit : Text.hexQuad? a b d e = some n)
    (hrest : rest ≠ []) :
    readString start opened done position
        (.char '\\' :: .char 'u' :: .char a :: .char b :: .char d :: .char e :: rest)
      = readString start (openHalf (.ofNat n)) (addPoint opened (.ofNat n) done) (position + 6)
          rest := by
  have hread : readUnit? a b d e = some (.ofNat n) := by
    simp only [readUnit?, CodePoint.char?, Option.bind_eq_bind, Option.bind_some, hunit]
    rfl
  rw [readString, hread]
  dsimp only
  rw [if_neg (by simpa using hrest)]

theorem readString_plain (hquote : c ≠ '"') (hslash : c ≠ '\\') (hc : 0x20 ≤ c.toNat) :
    readString start opened done position (c :: rest)
      = readString start none (c :: done) (position + 1) rest := by
  rw [readString, if_neg (Nat.not_lt.mpr hc)]
  -- the character neither closes the string nor begins an escape
  · exact hquote
  · exact fun heq => absurd heq hslash
  · exact fun _ _ _ _ _ heq => absurd heq hslash
  · exact fun _ heq => absurd heq hslash
  · exact fun _ _ heq => absurd heq hslash

/-- A code point that closes no half is added as it is. -/
theorem addPoint_of_apart (h : ∀ i ∈ opened, CodePoint.Apart (.high i) c) :
    addPoint opened c done = c :: done := by
  unfold addPoint
  split
  · exact (h _ rfl).elim
  · rfl

/-- The numbers of the two halves of a character, and how they make it up again. -/
theorem exists_paired {d : Char} (hd : 0x10000 ≤ d.toNat) :
    ∃ i j, CodePoint.ofNat (0xD800 + (d.toNat - 0x10000) / 0x400) = .high i ∧
      CodePoint.ofNat (0xDC00 + (d.toNat - 0x10000) % 0x400) = .low j ∧
        CodePoint.paired i j = d := by
  have hscalar : d.toNat < 0xD800 ∨ 0xDFFF < d.toNat ∧ d.toNat < 0x110000 := d.valid
  have hhigh : (d.toNat - 0x10000) / 0x400 < 1024 := by omega
  have hlow : (d.toNat - 0x10000) % 0x400 < 1024 := Nat.mod_lt _ (by decide)
  refine ⟨⟨_, hhigh⟩, ⟨_, hlow⟩, CodePoint.ofNat_toNat (.high ⟨_, hhigh⟩),
    CodePoint.ofNat_toNat (.low ⟨_, hlow⟩), ?_⟩
  have hvalue : 0x10000 + (d.toNat - 0x10000) / 0x400 * 0x400 + (d.toNat - 0x10000) % 0x400
      = d.toNat := by omega
  rw [CodePoint.paired, hvalue, Char.ofNat_toNat]

/-- The ways to write a code point within a string. -/
inductive Escape : CodePoint → List CodePoint → Prop
  | short {e d : Char} (h : shortEscape? e = some d) : Escape d [.char '\\', .char e]
  | self {d : Char} (hquote : d ≠ '"') (hslash : d ≠ '\\') (hlow : 0x20 ≤ d.toNat)
    (hhigh : d.toNat ≤ 0x7e) : Escape d [.char d]
  | unit {c : CodePoint} (h : c.toNat < 0x10000) : Escape c (unitEscape c.toNat)
  | halves {d : Char} (h : 0x10000 ≤ d.toNat) :
    Escape d (unitEscape (0xD800 + (d.toNat - 0x10000) / 0x400)
      ++ unitEscape (0xDC00 + (d.toNat - 0x10000) % 0x400))

theorem escape_escapePoint (c : CodePoint) : Escape c (escapePoint c) := by
  have hshort : ∀ (d e : Char), c = d → shortEscape? e = some d →
      Escape c [.char '\\', .char e] := by
    rintro d e rfl he
    exact .short he
  unfold escapePoint
  -- the characters that have a letter of their own
  iterate 7
    split
    · next h => exact hshort _ _ h rfl
  cases c with
  | char d =>
    split
    · next hquote hslash _ _ _ _ _ h =>
      exact .self (mt (congrArg _) hquote) (mt (congrArg _) hslash) h.1 h.2
    split
    · next h => exact .unit h
    · next h => exact .halves (Nat.not_lt.mp h)
  | high i =>
    have hnumber : (CodePoint.high i).toNat = 0xD800 + i := rfl
    rw [if_neg (by omega), if_pos (by omega)]
    exact .unit (by omega)
  | low i =>
    have hnumber : (CodePoint.low i).toNat = 0xDC00 + i := rfl
    rw [if_neg (by omega), if_pos (by omega)]
    exact .unit (by omega)

/-- **A code point is read where it was written**, if it closes no half. -/
theorem Escape.read {text : List CodePoint} (h : Escape c text) (start position : Nat)
    (done : List CodePoint) (hopen : ∀ i ∈ opened, CodePoint.Apart (.high i) c)
    (hrest : rest ≠ []) :
    ∃ position', readString start opened done position (text ++ rest)
      = readString start (openHalf c) (c :: done) position' rest := by
  cases h with
  | short h => exact ⟨_, readString_short h⟩
  | self hquote hslash hlow =>
    exact ⟨_, readString_plain (mt CodePoint.char.inj hquote) (mt CodePoint.char.inj hslash) hlow⟩
  | unit h =>
    obtain ⟨a, b, d, e, hdigits, hunit⟩ := Text.exists_hexDigits_four h
    refine ⟨position + 6, ?_⟩
    rw [unitEscape, hdigits]
    refine (readString_unit hunit hrest).trans ?_
    rw [CodePoint.ofNat_toNat, addPoint_of_apart hopen]
  | @halves d h =>
    have hscalar : d.toNat < 0xD800 ∨ 0xDFFF < d.toNat ∧ d.toNat < 0x110000 := d.valid
    obtain ⟨i, j, hhigh, hlow, hpaired⟩ := exists_paired h
    obtain ⟨a, b, c, e, hdigits, hunit⟩ :=
      Text.exists_hexDigits_four (n := 0xD800 + (d.toNat - 0x10000) / 0x400) (by omega)
    obtain ⟨a', b', c', e', hdigits', hunit'⟩ :=
      Text.exists_hexDigits_four (n := 0xDC00 + (d.toNat - 0x10000) % 0x400) (by omega)
    refine ⟨position + 6 + 6, ?_⟩
    rw [unitEscape, unitEscape, hdigits, hdigits']
    refine (readString_unit hunit (List.cons_ne_nil _ _)).trans
      ((readString_unit hunit' hrest).trans ?_)
    -- the first half stays open until the second one closes it
    rw [hhigh, hlow, addPoint_of_apart (c := .high i) fun _ _ => trivial]
    change readString _ _ (.char (CodePoint.paired i j) :: done) _ _ = _
    rw [hpaired]
    rfl

/-- **A string is read back from behind its opening quote**, after what has been read of it. -/
theorem readString_literal {s : List CodePoint} (h : s.IsChain CodePoint.Apart) (start : Nat)
    (position : Nat) (done rest : List CodePoint)
    (hopen : ∀ i ∈ opened, ∀ c ∈ s.head?, CodePoint.Apart (.high i) c) :
    ∃ position', readString start opened done position (s.flatMap escapePoint ++ .char '"' :: rest)
      = .ok (⟨done.reverse ++ s⟩, ⟨rest, position'⟩) := by
  induction s generalizing opened position done with
  | nil =>
    refine ⟨position + 1, ?_⟩
    rw [List.flatMap_nil, List.nil_append, readString, List.append_nil]
  | cons c s ih =>
    have hbehind : s.flatMap escapePoint ++ .char '"' :: rest ≠ [] := by simp
    obtain ⟨position', hchar⟩ := (escape_escapePoint c).read start position done
      (fun i hi => hopen i hi c rfl) hbehind
    -- the half that `c` leaves open is `c` itself
    have hnext : ∀ i ∈ openHalf c, ∀ d ∈ s.head?, CodePoint.Apart (.high i) d := by
      intro i hi d hd
      cases c with
      | char | low => cases hi
      | high =>
        obtain rfl := Option.some.inj hi
        obtain ⟨s, rfl⟩ := List.head?_eq_some_iff.mp hd
        exact (List.isChain_cons_cons.mp h).1
    obtain ⟨position'', hread⟩ := ih h.tail position' (c :: done) hnext
    refine ⟨position'', ?_⟩
    rw [List.flatMap_cons, List.append_assoc, hchar, hread, List.reverse_cons, List.append_assoc,
      List.singleton_append]

theorem readString_toList {s : Text} (h : s.Unsplit) (start position : Nat)
    (rest : List CodePoint) :
    ∃ position', readString start none [] position
        (s.toList.flatMap escapePoint ++ .char '"' :: rest)
      = .ok (s, ⟨rest, position'⟩) :=
  readString_literal h start position [] rest fun _ hnone => by cases hnone

/-! ### Whole numbers -/

/-- What stands behind a value: nothing, a blank, or what divides or closes an array or object. -/
def Delimited (text : List CodePoint) : Prop :=
  ∀ c ∈ text.head?, isBlank c = true ∨ c = ',' ∨ c = ']' ∨ c = '}'

theorem delimited_cons (h : isBlank c = true ∨ c = ',' ∨ c = ']' ∨ c = '}') :
    Delimited (c :: rest) := by
  rintro d hd
  obtain rfl := Option.some.inj hd
  exact h

/-- What stands behind a number does not belong to it. -/
theorem not_number_of_delimited (h : Delimited (c :: rest)) :
    c.isDigit = false ∧ c ≠ '.' ∧ c ≠ 'e' ∧ c ≠ 'E' := by
  have hc := h c rfl
  simp only [isBlank, Bool.or_eq_true, beq_iff_eq, or_assoc] at hc
  rcases hc with rfl | rfl | rfl | rfl | rfl | rfl | rfl <;> decide

theorem readFraction_of_delimited (h : Delimited rest) : readFraction rest = ([], rest) := by
  cases rest with
  | nil => rfl
  | cons c rest =>
    rw [readFraction]
    exact fun c' rest' heq => absurd (List.cons.inj heq).1 (not_number_of_delimited h).2.1

theorem readExponent_of_delimited (h : Delimited rest) : readExponent rest = none := by
  cases rest with
  | nil => rfl
  | cons c rest =>
    obtain ⟨-, -, he, hE⟩ := not_number_of_delimited h
    exact if_neg (not_or.mpr ⟨he, hE⟩)

/-- The digits of a number end where it does. -/
theorem takeWhile_isDigit {digits : List CodePoint} (hdigits : ∀ c ∈ digits, c.isDigit = true)
    (h : Delimited rest) :
    (digits ++ rest).takeWhile CodePoint.isDigit = digits ∧
      (digits ++ rest).dropWhile CodePoint.isDigit = rest := by
  cases rest with
  | nil =>
    rw [List.takeWhile_append_of_pos hdigits, List.dropWhile_append_of_pos hdigits]
    exact ⟨List.append_nil _, rfl⟩
  | cons c rest => exact span_append_cons hdigits (not_number_of_delimited h).1 rest

/-- The digits of a number. -/
def digitsOf (n : Nat) : List CodePoint := (Nat.toDigits 10 n).map .char

theorem isDigit_of_mem_digitsOf {n : Nat} (h : c ∈ digitsOf n) : c.isDigit = true := by
  obtain ⟨d, hd, rfl⟩ := List.mem_map.mp h
  exact Nat.isDigit_of_mem_toDigits (by decide) (by decide) hd

theorem exists_digitsOf_eq_cons (n : Nat) :
    ∃ c rest, digitsOf n = c :: rest ∧ c.isDigit = true := by
  obtain ⟨d, rest, hcons, hd⟩ := exists_toDigits_eq_digit_cons n
  exact ⟨d, rest.map .char, by rw [digitsOf, hcons, List.map_cons], hd⟩

theorem readWhole_digitsOf (n : Nat) (h : Delimited rest) :
    readWhole (digitsOf n ++ rest) = some (digitsOf n, rest) := by
  by_cases hn : n = 0
  · rw [hn]
    rfl
  · -- the first digit is not zero
    obtain ⟨d, digits, hcons, hd⟩ := exists_toDigits_eq_cons hn
    have hlist : digitsOf n = .char d :: digits.map .char := by rw [digitsOf, hcons, List.map_cons]
    have hdigits : ∀ c ∈ CodePoint.char d :: digits.map .char, c.isDigit = true :=
      fun c hc => isDigit_of_mem_digitsOf (hlist ▸ hc)
    obtain ⟨hfirst, hmore⟩ := List.forall_mem_cons.mp hdigits
    obtain ⟨htake, hdrop⟩ := takeWhile_isDigit hmore h
    rw [hlist, List.cons_append, readWhole, if_pos hfirst, htake, hdrop]
    exact fun heq => absurd (CodePoint.char.inj heq) hd

theorem natOfDigits_digitsOf (n : Nat) : natOfDigits (digitsOf n) = n := by
  rw [natOfDigits, digitsOf, List.foldl_map]
  exact (Nat.ofDigitChars_eq_foldl.symm).trans Nat.ofDigitChars_ten_toDigits

/-- A whole number is a sign, if it is negative, and digits. -/
theorem intText_eq (n : Int) :
    intText n = if n < 0 then .char '-' :: digitsOf n.natAbs else digitsOf n.natAbs := by
  rw [intText, Text.toList_ofString, digitsOf]
  cases n with
  | ofNat n =>
    have hsign : ¬ Int.ofNat n < 0 := Int.not_lt.mpr (Int.natCast_nonneg n)
    rw [if_neg hsign]
    exact congrArg _ (toList_toString n)
  | negSucc n =>
    rw [if_pos (Int.negSucc_lt_zero n)]
    have hlist : ("-" ++ toString (n + 1)).toList = '-' :: Nat.toDigits 10 (n + 1) :=
      String.toList_append.trans (congrArg _ (toList_toString _))
    exact congrArg (List.map CodePoint.char) hlist

/-- **A whole number is read back.** -/
theorem readNumber_intText {n : Int} (hn : (Nat.toDigits 10 n.natAbs).length ≤ maxDigits)
    (h : Delimited rest) (position : Nat) :
    readNumber ⟨intText n ++ rest, position⟩
      = .ok (.int n, ⟨rest, position + ((intText n ++ rest).length - rest.length)⟩) := by
  have hwhole := readWhole_digitsOf n.natAbs h
  have hlength : ¬ maxDigits < (digitsOf n.natAbs).length := by
    rw [digitsOf, List.length_map]
    exact Nat.not_lt.mpr hn
  rw [intText_eq]
  by_cases hneg : n < 0
  · have habs : -(n.natAbs : Int) = n := by omega
    rw [if_pos hneg, List.cons_append]
    simp only [readNumber, hwhole, readFraction_of_delimited h, readExponent_of_delimited h,
      List.isEmpty_nil, Option.isNone_none, Bool.and_self, if_true, if_neg hlength,
      natOfDigits_digitsOf, habs]
  · have habs : (n.natAbs : Int) = n := by omega
    rw [if_neg hneg]
    obtain ⟨c, digits, hcons, hc⟩ := exists_digitsOf_eq_cons n.natAbs
    unfold readNumber
    split
    next negative unsigned hsign =>
    obtain ⟨rfl, rfl⟩ : negative = false ∧ unsigned = digitsOf n.natAbs ++ rest := by
      -- a digit is no sign
      have hminus : c ≠ .char '-' := by
        rintro rfl
        exact absurd hc (by decide)
      simpa [hcons, hminus, eq_comm] using hsign
    simp only [hwhole, readFraction_of_delimited h, readExponent_of_delimited h,
      List.isEmpty_nil, Option.isNone_none, Bool.and_self, if_true, if_neg hlength,
      natOfDigits_digitsOf, habs]
    rfl

end Json

end Gridwork
