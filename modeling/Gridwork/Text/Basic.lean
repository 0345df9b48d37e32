/-!
# Text of requests

A text that comes with a request is a sequence of code points. Most code points are characters. The
others are the halves of surrogate pairs: in an encoding of sixteen bits two of them, a high one and
a low one, make up a character, but an escape may stand for one by itself, and a decoder may let one
pass. A half is kept as it is. Only encoding a text fails at it.

A `String` has no halves in it and is a `Text` wherever one is expected.
-/

namespace Gridwork

/-- A code point. -/
inductive CodePoint where
  | char (c : Char)
  /-- The first half of a pair. -/
  | high (i : Fin 1024)
  /-- The second half of a pair. -/
  | low (i : Fin 1024)
  deriving Repr

namespace CodePoint

instance : DecidableEq CodePoint
  | char c, char d => decidable_of_iff (c = d) ⟨congrArg _, char.inj⟩
  | high i, high j => decidable_of_iff (i = j) ⟨congrArg _, high.inj⟩
  | low i, low j => decidable_of_iff (i = j) ⟨congrArg _, low.inj⟩
  | char _, high _ | char _, low _ | high _, char _ | high _, low _ | low _, char _
  | low _, high _ => isFalse (fun h => by cases h)

instance : Coe Char CodePoint := ⟨char⟩

/-- The number of a code point. -/
def toNat : CodePoint → Nat
  | char c => c.toNat
  | high i => 0xD800 + i
  | low i => 0xDC00 + i

/-- The code point of a number. -/
def ofNat (n : Nat) : CodePoint :=
  if 0xD800 ≤ n ∧ n < 0xDC00 then .high (Fin.ofNat 1024 (n - 0xD800))
  else if 0xDC00 ≤ n ∧ n < 0xE000 then .low (Fin.ofNat 1024 (n - 0xDC00))
  else .char (Char.ofNat n)

/-- The character that two halves make up. -/
def paired (high low : Fin 1024) : Char := Char.ofNat (0x10000 + high * 0x400 + low)

/-- The character that a code point is. -/
def char? : CodePoint → Option Char
  | char c => some c
  | _ => none

/-- Whether a code point is a character of a kind. -/
def is (p : Char → Bool) : CodePoint → Bool
  | char c => p c
  | _ => false

/-- Whether a code point is a digit of ASCII. -/
def isDigit (c : CodePoint) : Bool := c.is Char.isDigit

/-- A code point is that of its number. -/
theorem ofNat_toNat (c : CodePoint) : ofNat c.toNat = c := by
  cases c with
  | char c =>
    -- a character lies below the halves or above them
    have hscalar : c.toNat < 0xD800 ∨ 0xDFFF < c.toNat ∧ c.toNat < 0x110000 := c.valid
    rw [ofNat, toNat, if_neg (by omega), if_neg (by omega), Char.ofNat_toNat]
  | high i =>
    rw [ofNat, toNat, if_pos (by omega), Nat.add_sub_cancel_left]
    exact congrArg high (Fin.ext (Nat.mod_eq_of_lt i.isLt))
  | low i =>
    rw [ofNat, toNat, if_neg (by omega), if_pos (by omega), Nat.add_sub_cancel_left]
    exact congrArg low (Fin.ext (Nat.mod_eq_of_lt i.isLt))

@[simp] theorem toNat_char (c : Char) : (char c).toNat = c.toNat := rfl

@[simp] theorem is_char (p : Char → Bool) (c : Char) : (char c).is p = p c := rfl

@[simp] theorem isDigit_char (c : Char) : (char c).isDigit = c.isDigit := rfl

example : ofNat 0xDFFF = .low 1023 ∧ ofNat 0x41 = 'A' ∧ (paired 0x3D 0x200).toNat = 0x1F600 := by
  decide

end CodePoint

/-- A text. -/
structure Text where
  ofList ::
  toList : List CodePoint
  deriving Repr, Inhabited

namespace Text

theorem toList_inj {s t : Text} : s.toList = t.toList ↔ s = t :=
  ⟨fun h => by cases s; cases t; cases h; rfl, congrArg _⟩

instance : DecidableEq Text := fun _ _ => decidable_of_iff _ toList_inj

/-- A string as a text. -/
def ofString (s : String) : Text := ⟨s.toList.map .char⟩

instance : Coe String Text := ⟨ofString⟩

/-- The string that a text is, if it has no halves in it. -/
def string? (t : Text) : Option String := (t.toList.mapM CodePoint.char?).map String.ofList

/-- Whether a text can be encoded. -/
def isEncodable (t : Text) : Bool := t.toList.all (·.is fun _ => true)

/-- Whether a text has no code point. -/
def isEmpty (t : Text) : Bool := t.toList.isEmpty

/-- Two texts, one after the other. -/
def append (s t : Text) : Text := ⟨s.toList ++ t.toList⟩

instance : Append Text := ⟨append⟩

/-- Texts one after the other. -/
def join (ts : List Text) : Text := ⟨ts.flatMap toList⟩

/-- Texts with another one between any two of them. -/
def intercalate (separator : Text) : List Text → Text
  | [] => ""
  | t :: rest => t ++ join (rest.map (separator ++ ·))

@[simp] theorem toList_ofString (s : String) : (ofString s).toList = s.toList.map .char := rfl

@[simp] theorem toList_append (s t : Text) : (s ++ t).toList = s.toList ++ t.toList := rfl

theorem append_left_inj {s t u : Text} : s ++ u = t ++ u ↔ s = t := by
  rw [← toList_inj, ← toList_inj, toList_append, toList_append, List.append_left_inj]

theorem append_right_inj {s t u : Text} : s ++ t = s ++ u ↔ t = u := by
  rw [← toList_inj, ← toList_inj, toList_append, toList_append, List.append_right_inj]

@[simp] theorem isEmpty_iff {t : Text} : t.isEmpty = true ↔ t = "" := by
  cases t
  simp [isEmpty, ofString]

theorem intercalate_singleton (separator t : Text) : intercalate separator [t] = t :=
  toList_inj.mp (List.append_nil _)

theorem intercalate_cons_cons (separator s t : Text) (rest : List Text) :
    intercalate separator (s :: t :: rest) = s ++ separator ++ intercalate separator (t :: rest) :=
  toList_inj.mp (by simp [intercalate, join])

theorem ofString_append (s t : String) : ofString (s ++ t) = ofString s ++ ofString t :=
  toList_inj.mp (by simp)

@[simp] theorem ofString_inj {s t : String} : ofString s = ofString t ↔ s = t := by
  constructor
  · intro h
    have hlist : s.toList.map CodePoint.char = t.toList.map CodePoint.char := toList_inj.mpr h
    exact String.toList_inj.mp ((List.map_inj_right fun _ _ => CodePoint.char.inj).mp hlist)
  · rintro rfl
    rfl

theorem isEncodable_ofString (s : String) : (ofString s).isEncodable = true := by
  simp [isEncodable]

theorem isEncodable_append {s t : Text} (hs : s.isEncodable = true) (ht : t.isEncodable = true) :
    (s ++ t).isEncodable = true := by
  rw [isEncodable, toList_append, List.all_append, Bool.and_eq_true]
  exact ⟨hs, ht⟩

/-- The texts that can be encoded are the strings. -/
theorem isEncodable_iff {t : Text} : t.isEncodable = true ↔ ∃ s : String, t = s := by
  constructor
  · intro h
    rw [isEncodable, List.all_eq_true] at h
    -- one code point after the other is a character
    have hchars : ∃ cs : List Char, t.toList = cs.map .char := by
      generalize t.toList = points at h
      induction points with
      | nil => exact ⟨[], rfl⟩
      | cons c points ih =>
        obtain ⟨hc, hpoints⟩ := List.forall_mem_cons.mp h
        obtain ⟨cs, rfl⟩ := ih hpoints
        cases c with
        | char d => exact ⟨d :: cs, rfl⟩
        | high | low => cases hc
    obtain ⟨cs, hcs⟩ := hchars
    refine ⟨String.ofList cs, toList_inj.mp ?_⟩
    rw [hcs, toList_ofString, String.toList_ofList]
  · rintro ⟨s, rfl⟩
    exact isEncodable_ofString s

example : (", " : Text).intercalate ["a", "b", "c"] = "a, b, c" := by decide

end Text

end Gridwork
