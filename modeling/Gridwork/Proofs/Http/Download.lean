import Gridwork.Disposition
import Gridwork.Proofs.Number.Numeral
import Gridwork.Proofs.Text.Ascii
import Gridwork.Proofs.Text.Utf8

/-!
# The header of a download

The header names the file twice, and each part of it can be read. The plain name stands in for the
file name character by character (`StandsIn`), and it has no quote, so the quote that closes it is
found again. The encoded name is made of characters that stand for themselves and of escapes
(`Text.Percent.Escaped`); reading it octet by octet gives the octets of the file name
(`Text.Percent.decodeOctets_encodeOctet_append`), and these give the name itself
(`Text.Utf8.decode_encode`).

`attachment_names` puts this together. Since the name is read back from the header, two files never
share one.
-/

namespace Gridwork

/-! ### Percent encoding -/

namespace Text.Percent

variable {b : UInt8} {rest : List Char}

/-- The digits of an escape. -/
def escapeDigits : List Char := "0123456789ABCDEF".toList

/-- A text in which every character stands for itself or belongs to an escape, which is a percent
sign and two digits. -/
inductive Escaped : List Char → Prop
  | nil : Escaped []
  | self {c : Char} {rest : List Char} (h : Unreserved c) (hrest : Escaped rest) :
    Escaped (c :: rest)
  | octet {x y : Char} {rest : List Char} (hx : x ∈ escapeDigits) (hy : y ∈ escapeDigits)
      (hrest : Escaped rest) : Escaped ('%' :: x :: y :: rest)

/-- The octets that stand for themselves are those of the characters that do so. -/
theorem unreserved_of_isUnreserved (h : isUnreserved b = true) :
    Unreserved (Char.ofNat b.toNat) ∧ (Char.ofNat b.toNat).toNat.toUInt8 = b := by
  rw [isUnreserved, Bool.and_eq_true, decide_eq_true_eq, UInt8.lt_iff_toNat_lt] at h
  have hall : ∀ n < 0x80, (Char.ofNat n).toNat = n := by decide
  have hvalue : (Char.ofNat b.toNat).toNat = b.toNat := hall _ h.1
  refine ⟨⟨?_, h.2⟩, ?_⟩
  · rw [hvalue]
    exact h.1
  · rw [hvalue]
    exact UInt8.ofNat_toNat

/-- Every other octet is written as an escape. -/
theorem encodeOctet_of_reserved (h : isUnreserved b = false) :
    encodeOctet b = ['%', (Nat.digitChar (b.toNat / 16)).toUpper,
      (Nat.digitChar (b.toNat % 16)).toUpper] := by
  rw [encodeOctet, h, hexDigits_two b.toNat_lt_size]
  rfl

theorem mem_escapeDigits {d : Nat} (h : d < 16) : (Nat.digitChar d).toUpper ∈ escapeDigits := by
  have hall : ∀ d < 16, (Nat.digitChar d).toUpper ∈ escapeDigits := by decide
  exact hall d h

theorem escaped_encodeOctet_append (b : UInt8) (hrest : Escaped rest) :
    Escaped (encodeOctet b ++ rest) := by
  have hsize : b.toNat < 256 := b.toNat_lt_size
  cases h : isUnreserved b with
  | true =>
    rw [encodeOctet, if_pos h]
    exact .self (unreserved_of_isUnreserved h).1 hrest
  | false =>
    rw [encodeOctet_of_reserved h]
    exact .octet (mem_escapeDigits (by omega)) (mem_escapeDigits (by omega)) hrest

/-- An octet is read where it was written. -/
theorem decodeOctets_encodeOctet_append (b : UInt8) (rest : List Char) :
    decodeOctets (encodeOctet b ++ rest) = b :: decodeOctets rest := by
  have hsize : b.toNat < 256 := b.toNat_lt_size
  cases h : isUnreserved b with
  | true =>
    obtain ⟨hchar, hback⟩ := unreserved_of_isUnreserved h
    -- the percent sign does not stand for itself
    have hpercent : Char.ofNat b.toNat ≠ '%' := by
      intro heq
      exact absurd (heq ▸ hchar.kind) (by decide)
    rw [encodeOctet, if_pos h, List.singleton_append, decodeOctets, Utf8.encode,
      List.flatMap_singleton, Utf8.encodeChar_of_ascii hchar.ascii, hback]
    · rfl
    · exact fun a b rest heq => absurd heq hpercent
  | false =>
    have hvalue : 16 * (b.toNat / 16) + b.toNat % 16 = b.toNat := Nat.div_add_mod _ _
    rw [encodeOctet_of_reserved h, List.cons_append, List.cons_append, List.cons_append,
      decodeOctets, hexDigit?_toUpper_digitChar (by omega), hexDigit?_toUpper_digitChar (by omega)]
    dsimp only
    rw [hvalue, UInt8.ofNat_toNat]
    rfl

theorem escaped_encode (cs : List Char) : Escaped (encode cs) := by
  unfold encode
  induction Utf8.encode cs with
  | nil => exact .nil
  | cons b octets ih =>
    rw [List.flatMap_cons]
    exact escaped_encodeOctet_append b ih

theorem decodeOctets_encode (cs : List Char) : decodeOctets (encode cs) = Utf8.encode cs := by
  unfold encode
  induction Utf8.encode cs with
  | nil => rfl
  | cons b octets ih => rw [List.flatMap_cons, decodeOctets_encodeOctet_append, ih]

/-- **A text is read back from its percent-encoded form.** -/
theorem decode?_encode (cs : List Char) : decode? (encode cs) = some cs := by
  rw [decode?, decodeOctets_encode, Utf8.decode_encode]
  rfl

theorem Escaped.ascii {cs : List Char} (h : Escaped cs) : ∀ c ∈ cs, c.toNat < 0x80 := by
  have hdigits : IsAscii "0123456789ABCDEF" := by decide
  have hpercent : '%'.toNat < 0x80 := by decide
  induction h with
  | nil => exact List.forall_mem_nil _
  | self h _ ih => exact List.forall_mem_cons.mpr ⟨h.ascii, ih⟩
  | octet hx hy _ ih =>
    simp only [List.forall_mem_cons]
    exact ⟨hpercent, hdigits _ hx, hdigits _ hy, ih⟩

end Text.Percent

namespace Disposition

/-! ### The plain name -/

/-- A text stands in for the name of a file between quotes. -/
structure StandsIn (plain name : String) : Prop where
  ascii : Text.IsAscii plain
  noQuote : '"' ∉ plain.toList
  length_eq : plain.length = name.length
  /-- What can be shown is shown. -/
  agrees : ∀ (i : Nat) (c : Char), name.toList[i]? = some c → c.toNat < 0x80 → c ≠ '"' →
    plain.toList[i]? = some c

theorem asciiChar_spec (c : Char) : (asciiChar c).toNat < 0x80 ∧ asciiChar c ≠ '"' := by
  unfold asciiChar
  split
  · decide
  split
  · next hquote hascii => exact ⟨hascii, hquote⟩
  · decide

theorem standsIn_map_asciiChar (name : String) :
    StandsIn (String.ofList (name.toList.map asciiChar)) name := by
  constructor
  case ascii =>
    intro c hc
    rw [String.toList_ofList] at hc
    obtain ⟨d, -, rfl⟩ := List.mem_map.mp hc
    exact (asciiChar_spec d).1
  case noQuote =>
    intro hc
    rw [String.toList_ofList] at hc
    obtain ⟨d, -, hd⟩ := List.mem_map.mp hc
    exact (asciiChar_spec d).2 hd
  case length_eq => rw [String.length_ofList, List.length_map, String.length_toList]
  case agrees =>
    intro i c hi hascii hquote
    have hsame : asciiChar c = c := by rw [asciiChar, if_neg hquote, if_pos hascii]
    rw [String.toList_ofList, List.getElem?_map, hi, Option.map_some, hsame]

/-! ### The header -/

/-- A header that names a file, for old clients and for the others. -/
structure Names (header name : String) : Prop where
  ascii : Text.IsAscii header
  form : ∃ plain encoded : String,
    header = "attachment; filename=\"" ++ plain ++ "\"; filename*=UTF-8''" ++ encoded ∧
      StandsIn plain name ∧ Text.Percent.Escaped encoded.toList ∧
        Text.Percent.decode? encoded.toList = some name.toList

/-- Two texts that are the same up to their first quote and behind it. -/
theorem eq_of_append_quote_eq {a b r s : List Char} (ha : '"' ∉ a) (hb : '"' ∉ b)
    (h : a ++ '"' :: r = b ++ '"' :: s) : r = s := by
  have hcut : ∀ {x y : List Char}, '"' ∉ x → (x ++ '"' :: y).dropWhile (· != '"') = '"' :: y := by
    intro x y hx
    have hnone : ∀ c ∈ x, (c != '"') = true := fun c hc => bne_iff_ne.mpr fun heq => hx (heq ▸ hc)
    rw [List.dropWhile_append_of_pos hnone, List.dropWhile_cons_of_neg (by simp)]
  have hdrop := congrArg (List.dropWhile (· != '"')) h
  rw [hcut ha, hcut hb] at hdrop
  exact (List.cons.inj hdrop).2

/-- What stands behind the closing quote is the same if the whole is. -/
theorem eq_behind_quote {start mark plain plain' encoded encoded' : String} {behind : List Char}
    (hmark : mark.toList = '"' :: behind) (hplain : '"' ∉ plain.toList)
    (hplain' : '"' ∉ plain'.toList)
    (h : start ++ plain ++ mark ++ encoded = start ++ plain' ++ mark ++ encoded') :
    encoded = encoded' := by
  have hlists := congrArg String.toList h
  simp only [String.toList_append, List.append_assoc, hmark, List.cons_append] at hlists
  have hbehind := eq_of_append_quote_eq hplain hplain' (List.append_cancel_left hlists)
  exact String.toList_inj.mp (List.append_cancel_left hbehind)

/-- The file is known from its header. -/
theorem Names.unique {header name name' : String} (h : Names header name)
    (h' : Names header name') : name = name' := by
  obtain ⟨plain, encoded, hform, hplain, -, hread⟩ := h.form
  obtain ⟨plain', encoded', hform', hplain', -, hread'⟩ := h'.form
  have hclose : "\"; filename*=UTF-8''".toList = '"' :: "; filename*=UTF-8''".toList := by decide
  have hencoded := eq_behind_quote hclose hplain.noQuote hplain'.noQuote (hform.symm.trans hform')
  rw [hencoded, hread'] at hread
  exact String.toList_inj.mp (Option.some.inj hread).symm

/-- **A header names its file and no other.** -/
theorem attachment_names (name : String) :
    Names (attachment name) name ∧ ∀ other, attachment other = attachment name → other = name := by
  have hnames : ∀ name, Names (attachment name) name := by
    intro name
    have hplain := standsIn_map_asciiChar name
    have hescaped := Text.Percent.escaped_encode name.toList
    refine ⟨?_, _, _, rfl, hplain, ?_, ?_⟩
    · -- the parts between the names are letters and marks
      have hencoded : Text.IsAscii (String.ofList (Text.Percent.encode name.toList)) := by
        rw [Text.IsAscii, String.toList_ofList]
        exact hescaped.ascii
      exact ((Text.IsAscii.append (by decide) hplain.ascii).append (by decide)).append hencoded
    · rwa [String.toList_ofList]
    · rw [String.toList_ofList, Text.Percent.decode?_encode]
  refine ⟨hnames name, fun other h => ?_⟩
  exact (hnames other).unique (h ▸ hnames name)

end Disposition

end Gridwork
