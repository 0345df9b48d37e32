import Gridwork.Proofs.Json.Literal
import Gridwork.Proofs.Text.Ascii

/-!
# Trees read back

A tree that is written as JSON text is read back as it was (`Json.Plain.parse_line`), if the reader
takes its whole numbers, no object repeats a key, and no halves of a character stand side by side in
its texts and keys. Doubles are left out. A value is read back
wherever its text stands (`Json.ReadsBack`), as long as something follows that divides or closes;
the steps that the reader is allowed are counted along the text, of which every step consumes a
character. So the members of an array and the entries of an object are read one after the other
behind those that have been read (`Json.readItems_print`, `Json.readEntries_print`).

The text itself is of visible characters only (`Json.Plain.visible`): it stands on one line.
-/

namespace Gridwork.Json

variable {v : Json} {items : List Json} {entries : Entries} {key : Text} {rest : List CodePoint}
  {level fuel : Nat} {c : CodePoint}

/-- The trees whose text the reader takes: a whole number has no more digits than it reads, no
object repeats a key, and there are no doubles. -/
inductive Plain : Json → Prop
  | null : Plain null
  | bool (b : Bool) : Plain (bool b)
  | int {n : Int} (h : (Nat.toDigits 10 n.natAbs).length ≤ maxDigits) : Plain (int n)
  | str (s : Text) : Plain (str s)
  | arr {items : List Json} (h : ∀ v ∈ items, Plain v) : Plain (arr items)
  | obj {entries : Entries} (hkeys : entries.Distinct) (h : ∀ entry ∈ entries, Plain entry.2) :
    Plain (obj entries)

/-- The trees in whose texts and keys the halves of a character never stand side by side. -/
inductive Unsplit : Json → Prop
  | null : Unsplit null
  | bool (b : Bool) : Unsplit (bool b)
  | int (n : Int) : Unsplit (int n)
  | float (x : Binary64) : Unsplit (float x)
  | str {s : Text} (h : s.Unsplit) : Unsplit (str s)
  | arr {items : List Json} (h : ∀ v ∈ items, Unsplit v) : Unsplit (arr items)
  | obj {entries : Entries} (hkeys : ∀ entry ∈ entries, entry.1.Unsplit)
    (h : ∀ entry ∈ entries, Unsplit entry.2) : Unsplit (obj entries)

/-! ### The characters of a text -/

/-- A text of the visible characters of ASCII and of blanks. -/
def Visible (text : List CodePoint) : Prop := ∀ c ∈ text, 0x20 ≤ c.toNat ∧ c.toNat ≤ 0x7e

instance (text : List CodePoint) : Decidable (Visible text) := List.decidableBAll _ text

theorem Visible.nil : Visible [] := List.forall_mem_nil _

theorem Visible.cons {text : List CodePoint} (hc : 0x20 ≤ c.toNat ∧ c.toNat ≤ 0x7e)
    (h : Visible text) : Visible (c :: text) :=
  List.forall_mem_cons.mpr ⟨hc, h⟩

theorem Visible.append {s t : List CodePoint} (hs : Visible s) (ht : Visible t) :
    Visible (s ++ t) :=
  List.forall_mem_append.mpr ⟨hs, ht⟩

/-- Such a text is a string. -/
theorem Visible.exists_string {t : Text} (h : Visible t.toList) :
    ∃ s : String, t = s ∧ ∀ c ∈ s.toList, 0x20 ≤ c.toNat ∧ c.toNat ≤ 0x7e := by
  have hencodable : t.isEncodable = true := by
    rw [Text.isEncodable, List.all_eq_true]
    intro c hc
    cases c with
    | char d => rfl
    | high | low =>
      -- a half lies above what is visible
      have hnumber := (h _ hc).2
      rw [CodePoint.toNat] at hnumber
      omega
  obtain ⟨s, rfl⟩ := Text.isEncodable_iff.mp hencodable
  exact ⟨s, rfl, fun c hc => h _ (List.mem_map_of_mem hc)⟩

theorem visible_toDigits {base : Nat} (hbase : 1 < base) (hdigits : base ≤ 16) (n : Nat) :
    Visible ((Nat.toDigits base n).map .char) := by
  have hall : ∀ d < 16, 0x20 ≤ (Nat.digitChar d).toNat ∧ (Nat.digitChar d).toNat ≤ 0x7e := by
    decide
  induction n using Nat.strongRecOn with
  | ind n ih =>
    rw [Nat.toDigits_eq_if hbase]
    split
    · next h => exact .cons (hall n (by omega)) .nil
    · next h =>
      rw [List.map_append, List.map_singleton]
      have hlast := Nat.lt_of_lt_of_le (Nat.mod_lt n (Nat.lt_trans Nat.zero_lt_one hbase)) hdigits
      have hquotient := Nat.div_lt_self (n := n) (by omega) hbase
      exact (ih _ hquotient).append (.cons (hall _ hlast) .nil)

theorem visible_unitEscape (n : Nat) : Visible (unitEscape n) := by
  have hzeros : Visible ((List.replicate (4 - (Nat.toDigits 16 n).length) '0').map .char) := by
    intro c hc
    rw [List.map_replicate] at hc
    rw [List.eq_of_mem_replicate hc]
    decide
  rw [unitEscape, Text.hexDigits, List.map_append]
  exact .cons (by decide) (.cons (by decide)
    (hzeros.append (visible_toDigits (by decide) (by decide) n)))

theorem Escape.visible {text : List CodePoint} (h : Escape c text) : Visible text := by
  cases h with
  | @short e d h =>
    have he : 0x20 ≤ e.toNat ∧ e.toNat ≤ 0x7e := by
      unfold shortEscape? at h
      split at h <;> first | decide | cases h
    exact .cons (by decide) (.cons he .nil)
  | self hquote hslash hlow hhigh => exact .cons ⟨hlow, hhigh⟩ .nil
  | unit h => exact visible_unitEscape _
  | halves h => exact (visible_unitEscape _).append (visible_unitEscape _)

theorem visible_stringLiteral (s : Text) : Visible (stringLiteral s) := by
  have hinner : Visible (s.toList.flatMap escapePoint) := by
    intro d hd
    obtain ⟨c, -, hd⟩ := List.mem_flatMap.mp hd
    exact (escape_escapePoint c).visible d hd
  exact .cons (by decide) (hinner.append (.cons (by decide) .nil))

theorem visible_intText (n : Int) : Visible (intText n) := by
  have hdigits : Visible (digitsOf n.natAbs) := visible_toDigits (by decide) (by decide) _
  rw [intText_eq]
  split
  · exact .cons (by decide) hdigits
  · exact hdigits

theorem visible_printMoreItems (h : ∀ v ∈ items, Visible (print .interchange v)) :
    Visible (printMoreItems .interchange items) := by
  induction items with
  | nil => exact .nil
  | cons v items ih =>
    obtain ⟨hv, hitems⟩ := List.forall_mem_cons.mp h
    exact .cons (by decide) (.cons (by decide) (hv.append (ih hitems)))

theorem visible_printMoreEntries (h : ∀ entry ∈ entries, Visible (print .interchange entry.2)) :
    Visible (printMoreEntries .interchange entries) := by
  induction entries with
  | nil => exact .nil
  | cons entry entries ih =>
    obtain ⟨hv, hentries⟩ := List.forall_mem_cons.mp h
    exact .cons (by decide) (.cons (by decide) ((visible_stringLiteral _).append
      (.cons (by decide) (.cons (by decide) (hv.append (ih hentries))))))

/-- **A tree is written in visible characters**, on one line. -/
theorem Plain.visible (h : v.Plain) : Visible (print .interchange v) := by
  induction h with
  | null => decide
  | bool b => cases b <;> decide
  | int => exact visible_intText _
  | str s => exact visible_stringLiteral s
  | @arr items _ ih =>
    have hinner : Visible (printItems .interchange items) := by
      cases items with
      | nil => exact .nil
      | cons v items =>
        obtain ⟨hv, hitems⟩ := List.forall_mem_cons.mp ih
        exact hv.append (visible_printMoreItems hitems)
    exact .cons (by decide) (hinner.append (.cons (by decide) .nil))
  | @obj entries _ _ ih =>
    have hinner : Visible (printEntries .interchange entries) := by
      cases entries with
      | nil => exact .nil
      | cons entry entries =>
        obtain ⟨hv, hentries⟩ := List.forall_mem_cons.mp ih
        exact (visible_stringLiteral _).append (.cons (by decide)
          (.cons (by decide) (hv.append (visible_printMoreEntries hentries))))
    exact .cons (by decide) (hinner.append (.cons (by decide) .nil))

/-! ### The first character -/

theorem skipBlanks_cons (h : isBlank c = false) (position : Nat) :
    skipBlanks position (c :: rest) = ⟨c :: rest, position⟩ := by
  rw [skipBlanks, if_neg (by simp [h])]

theorem skipBlanks_blank (position : Nat) :
    skipBlanks position (.char ' ' :: rest) = skipBlanks (position + 1) rest := rfl

/-- A value begins with a character that is neither blank nor closes an array. -/
theorem exists_print_eq_cons (h : v.Plain) :
    ∃ c text, print .interchange v = c :: text ∧ isBlank c = false ∧ c ≠ ']' := by
  cases h with
  | null => exact ⟨_, _, rfl, by decide⟩
  | bool b => cases b <;> exact ⟨_, _, rfl, by decide⟩
  | @int n h =>
    obtain ⟨c, digits, hcons, hc⟩ := exists_digitsOf_eq_cons n.natAbs
    rw [print, intText_eq, hcons]
    split
    · exact ⟨_, _, rfl, by decide⟩
    · -- what may stand behind a number is no digit
      have hnot : ¬ (isBlank c = true ∨ c = ',' ∨ c = ']' ∨ c = '}') := by
        intro h
        have hend : Delimited [c] := delimited_cons h
        exact Bool.false_ne_true ((not_number_of_delimited hend).1.symm.trans hc)
      rw [not_or, not_or, not_or, Bool.not_eq_true] at hnot
      exact ⟨c, digits, rfl, hnot.1, hnot.2.2.1⟩
  | str s => exact ⟨_, _, rfl, by decide⟩
  | arr => exact ⟨_, _, rfl, by decide⟩
  | obj => exact ⟨_, _, rfl, by decide⟩

/-- The blanks in front of a value are passed over. -/
theorem skipBlanks_print (h : v.Plain) (position : Nat) :
    skipBlanks position (print .interchange v ++ rest)
      = ⟨print .interchange v ++ rest, position⟩ := by
  obtain ⟨c, text, hcons, hblank, -⟩ := exists_print_eq_cons h
  rw [hcons]
  exact skipBlanks_cons hblank position

/-! ### Reading -/

/-- A value is read back from where its text stands, inside any number of arrays and objects. Each
step consumes a character or is followed by one that does, so as many steps are enough as the text
has characters. -/
def ReadsBack (v : Json) : Prop :=
  ∀ (level fuel position : Nat) (rest : List CodePoint), (print .interchange v).length ≤ fuel →
    Delimited rest →
      ∃ position', readValue none level fuel ⟨print .interchange v ++ rest, position⟩
        = .ok (v, ⟨rest, position'⟩)

/-! ### Members and entries -/

/-- The last member of an array. -/
theorem readItems_last {done : List Json} {cursor : Cursor} {position : Nat}
    (h : readValue none level fuel cursor = .ok (v, ⟨.char ']' :: rest, position⟩)) :
    readItems none level (fuel + 1) done cursor
      = .ok (.arr (v :: done).reverse, ⟨rest, position + 1⟩) := by
  rw [readItems, h]
  rfl

/-- A member of an array that is followed by another one. -/
theorem readItems_more {done : List Json} {cursor : Cursor} {position : Nat}
    (h : readValue none level fuel cursor = .ok (v, ⟨.char ',' :: rest, position⟩)) :
    readItems none level (fuel + 1) done cursor
      = readItems none level fuel (v :: done) (skipBlanks (position + 1) rest) := by
  rw [readItems, h]
  rfl

/-- An entry is read up to what stands behind its value. -/
theorem readEntry (hkey : key.Unsplit) (hv : ReadsBack v) (hplain : v.Plain)
    (hfuel : (print .interchange v).length ≤ fuel) (hrest : Delimited rest) (level start : Nat) :
    ∃ colon text behind,
      readString start none [] (start + 1)
          (key.toList.flatMap escapePoint
            ++ .char '"' :: .char ':' :: .char ' ' :: (print .interchange v ++ rest))
        = .ok (key, ⟨.char ':' :: text, colon⟩) ∧
      readValue none level fuel (skipBlanks (colon + 1) text) = .ok (v, ⟨rest, behind⟩) := by
  obtain ⟨colon, hread⟩ := readString_toList hkey start (start + 1)
    (.char ':' :: .char ' ' :: (print .interchange v ++ rest))
  -- the value stands behind the colon and a blank
  obtain ⟨behind, hvalue⟩ := hv level fuel (colon + 1 + 1) rest hfuel hrest
  rw [← skipBlanks_print hplain, ← skipBlanks_blank] at hvalue
  exact ⟨colon, _, behind, hread, hvalue⟩

/-- The last entry of an object. -/
theorem readEntries_last (hkey : key.Unsplit) (hv : ReadsBack v) (hplain : v.Plain)
    (hfuel : (print .interchange v).length ≤ fuel) (done : Entries) (rest : List CodePoint)
    (position : Nat) :
    ∃ position', readEntries none level (fuel + 1) done
        ⟨stringLiteral key ++ .char ':' :: .char ' ' :: (print .interchange v ++ .char '}' :: rest),
          position⟩
      = .ok (.obj (addEntry key v done).reverse, ⟨rest, position'⟩) := by
  have hend : Delimited (.char '}' :: rest) := delimited_cons (by decide)
  obtain ⟨colon, text, behind, hread, hvalue⟩ := readEntry hkey hv hplain hfuel hend level position
  have hskip : Cursor.skip ⟨.char ':' :: text, colon⟩ = ⟨.char ':' :: text, colon⟩ := rfl
  refine ⟨behind + 1, ?_⟩
  rw [stringLiteral, List.cons_append, List.append_assoc, List.singleton_append]
  simp only [readEntries, hread, hskip, hvalue]
  rfl

/-- An entry of an object that is followed by another one. -/
theorem readEntries_more (hkey : key.Unsplit) (hv : ReadsBack v) (hplain : v.Plain)
    (hfuel : (print .interchange v).length ≤ fuel) (key' : Text) (done : Entries)
    (rest : List CodePoint) (position : Nat) :
    ∃ position', readEntries none level (fuel + 1) done
        ⟨stringLiteral key ++ .char ':' :: .char ' ' :: (print .interchange v
          ++ .char ',' :: .char ' ' :: (stringLiteral key' ++ rest)), position⟩
      = readEntries none level fuel (addEntry key v done)
          ⟨stringLiteral key' ++ rest, position'⟩ := by
  have hend : Delimited (.char ',' :: .char ' ' :: (stringLiteral key' ++ rest)) :=
    delimited_cons (by decide)
  obtain ⟨colon, text, behind, hread, hvalue⟩ := readEntry hkey hv hplain hfuel hend level position
  have hskip : Cursor.skip ⟨.char ':' :: text, colon⟩ = ⟨.char ':' :: text, colon⟩ := rfl
  refine ⟨behind + 1 + 1, ?_⟩
  rw [stringLiteral, List.cons_append, List.append_assoc, List.singleton_append]
  simp only [readEntries, hread, hskip, hvalue]
  rfl

/-- An entry whose key has not been read yet is added to those that have been. -/
theorem addEntry_of_distinct {done : Entries}
    (h : Entries.Distinct (done.reverse ++ (key, v) :: entries)) :
    addEntry key v done = (key, v) :: done := by
  have hnew : done.any (·.1 == key) = false := by
    rw [Entries.Distinct, List.map_append, List.nodup_append] at h
    rw [List.any_eq_false]
    intro entry hentry heq
    refine h.2.2 entry.1 ?_ key List.mem_cons_self (by simpa using heq)
    exact List.mem_map_of_mem (List.mem_reverse.mpr hentry)
  rw [addEntry, if_neg (by simp [hnew])]

/-- The members of an array are read back, behind those that have been read. -/
theorem readItems_print (hv : ReadsBack v) (hitems : ∀ w ∈ items, ReadsBack w)
    (hplain : ∀ w ∈ items, Plain w)
    (hfuel : (print .interchange v ++ printMoreItems .interchange items).length < fuel)
    (done : List Json) (rest : List CodePoint) (position : Nat) :
    ∃ position', readItems none level fuel done
        ⟨print .interchange v ++ (printMoreItems .interchange items ++ .char ']' :: rest), position⟩
      = .ok (.arr (done.reverse ++ v :: items), ⟨rest, position'⟩) := by
  -- each round passes over a member and what divides it from the next one
  induction items generalizing v fuel done position with
  | nil =>
    obtain ⟨fuel, rfl⟩ := Nat.exists_eq_add_one_of_ne_zero (Nat.ne_zero_of_lt hfuel)
    rw [List.length_append] at hfuel
    obtain ⟨position', hread⟩ := hv level fuel position (.char ']' :: rest) (by omega)
      (delimited_cons (by decide))
    refine ⟨position' + 1, (readItems_last hread).trans ?_⟩
    rw [List.reverse_cons]
  | cons w items ih =>
    obtain ⟨fuel, rfl⟩ := Nat.exists_eq_add_one_of_ne_zero (Nat.ne_zero_of_lt hfuel)
    obtain ⟨hw, hitems⟩ := List.forall_mem_cons.mp hitems
    obtain ⟨hwplain, hplain⟩ := List.forall_mem_cons.mp hplain
    simp only [printMoreItems, List.length_append, List.length_cons] at hfuel
    rw [printMoreItems, List.cons_append, List.cons_append, List.append_assoc]
    obtain ⟨position', hread⟩ := hv level fuel position (.char ',' :: _) (by omega)
      (delimited_cons (by decide))
    have hfuel' : (print .interchange w ++ printMoreItems .interchange items).length < fuel := by
      rw [List.length_append]
      omega
    obtain ⟨position'', hmore⟩ := ih hw hitems hplain hfuel' (v :: done) (position' + 1 + 1)
    refine ⟨position'', (readItems_more hread).trans ?_⟩
    rw [skipBlanks_blank, skipBlanks_print hwplain, hmore, List.reverse_cons, List.append_assoc,
      List.singleton_append]

/-- The entries of an object are read back, behind those that have been read. -/
theorem readEntries_print (hkey : key.Unsplit) (hunsplit : ∀ entry ∈ entries, entry.1.Unsplit)
    (hv : ReadsBack v) (hentries : ∀ entry ∈ entries, ReadsBack entry.2) (hvplain : v.Plain)
    (hplain : ∀ entry ∈ entries, Plain entry.2)
    (hfuel : (print .interchange v ++ printMoreEntries .interchange entries).length < fuel)
    (done : Entries) (hkeys : Entries.Distinct (done.reverse ++ (key, v) :: entries))
    (rest : List CodePoint) (position : Nat) :
    ∃ position', readEntries none level fuel done
        ⟨stringLiteral key ++ .char ':' :: .char ' ' :: (print .interchange v
          ++ (printMoreEntries .interchange entries ++ .char '}' :: rest)), position⟩
      = .ok (.obj (done.reverse ++ (key, v) :: entries), ⟨rest, position'⟩) := by
  induction entries generalizing key v fuel done position with
  | nil =>
    obtain ⟨fuel, rfl⟩ := Nat.exists_eq_add_one_of_ne_zero (Nat.ne_zero_of_lt hfuel)
    rw [List.length_append] at hfuel
    have hfuel' : (print .interchange v).length ≤ fuel := by omega
    obtain ⟨position', hread⟩ := readEntries_last hkey hv hvplain hfuel' done rest position
    refine ⟨position', hread.trans ?_⟩
    rw [addEntry_of_distinct hkeys, List.reverse_cons]
  | cons entry entries ih =>
    obtain ⟨key', w⟩ := entry
    obtain ⟨fuel, rfl⟩ := Nat.exists_eq_add_one_of_ne_zero (Nat.ne_zero_of_lt hfuel)
    obtain ⟨hkey', hunsplit⟩ := List.forall_mem_cons.mp hunsplit
    obtain ⟨hw, hentries⟩ := List.forall_mem_cons.mp hentries
    obtain ⟨hwplain, hplain⟩ := List.forall_mem_cons.mp hplain
    simp only [printMoreEntries, List.length_append, List.length_cons] at hfuel
    have htext : printMoreEntries .interchange ((key', w) :: entries) ++ .char '}' :: rest
        = .char ',' :: .char ' ' :: (stringLiteral key' ++ .char ':' :: .char ' '
          :: (print .interchange w
            ++ (printMoreEntries .interchange entries ++ .char '}' :: rest))) := by
      simp only [printMoreEntries, List.cons_append, List.append_assoc]
      rfl
    have hvfuel : (print .interchange v).length ≤ fuel := by omega
    obtain ⟨position', hread⟩ := readEntries_more hkey hv hvplain hvfuel key' done _ position
    have hwfuel : (print .interchange w ++ printMoreEntries .interchange entries).length
        < fuel := by
      rw [List.length_append]
      omega
    -- the key that has been read is one of those that the others must differ from
    have hkeys' : Entries.Distinct (((key, v) :: done).reverse ++ (key', w) :: entries) := by
      rwa [List.reverse_cons, List.append_assoc]
    obtain ⟨position'', hmore⟩ :=
      ih hkey' hunsplit hw hentries hwplain hplain hwfuel _ hkeys' position'
    refine ⟨position'', ?_⟩
    rw [htext, hread, addEntry_of_distinct hkeys, hmore, List.reverse_cons, List.append_assoc,
      List.singleton_append]

/-! ### Trees -/

/-- A digit begins a number. -/
theorem readValue_digit (hc : c.isDigit = true) (position : Nat) :
    readValue none level (fuel + 1) ⟨c :: rest, position⟩ = readNumber ⟨c :: rest, position⟩ := by
  rw [readValue]
  dsimp only
  split
  case h_10 => rfl
  all_goals
    next heq =>
      obtain ⟨rfl, -⟩ := List.cons.inj heq
      exact absurd hc (by decide)

/-- A sign and a digit begin a number. -/
theorem readValue_minus (hc : c.isDigit = true) (position : Nat) :
    readValue none level (fuel + 1) ⟨'-' :: c :: rest, position⟩
      = readNumber ⟨'-' :: c :: rest, position⟩ := by
  rw [readValue]
  dsimp only
  split
  case h_9 heq =>
    obtain ⟨rfl, -⟩ := List.cons.inj (List.cons.inj heq).2
    exact absurd hc (by decide)
  case h_10 => rfl
  all_goals
    next heq => exact absurd (List.cons.inj heq).1 (by decide)

/-- A whole number is read as a number. -/
theorem readValue_intText (n : Int) (position : Nat) :
    readValue none level (fuel + 1) ⟨intText n ++ rest, position⟩
      = readNumber ⟨intText n ++ rest, position⟩ := by
  obtain ⟨c, digits, hcons, hc⟩ := exists_digitsOf_eq_cons n.natAbs
  rw [intText_eq, hcons]
  split
  · exact readValue_minus hc position
  · exact readValue_digit hc position

/-- What is no closing bracket begins the members of an array. -/
theorem readValue_bracket (hblank : isBlank c = false) (hclose : c ≠ ']') (position : Nat) :
    readValue none level (fuel + 1) ⟨.char '[' :: c :: rest, position⟩
      = readItems none (level + 1) fuel [] ⟨c :: rest, position + 1⟩ := by
  rw [readValue]
  simp only [mayOpen_none, if_true, skipBlanks_cons hblank]
  split
  · next heq => exact absurd (List.cons.inj heq).1 hclose
  · rfl

/-- No value has an empty text, so at least one step is allowed. -/
theorem readsBack_of_succ (hplain : v.Plain)
    (h : ∀ (level fuel position : Nat) (rest : List CodePoint),
      (print .interchange v).length ≤ fuel + 1 → Delimited rest →
        ∃ position', readValue none level (fuel + 1) ⟨print .interchange v ++ rest, position⟩
          = .ok (v, ⟨rest, position'⟩)) : ReadsBack v := by
  intro level fuel position rest hfuel hrest
  obtain ⟨c, text, hcons, -⟩ := exists_print_eq_cons hplain
  have hpos : fuel ≠ 0 := by
    rintro rfl
    rw [hcons] at hfuel
    exact Nat.not_succ_le_zero _ hfuel
  obtain ⟨fuel, rfl⟩ := Nat.exists_eq_add_one_of_ne_zero hpos
  exact h level fuel position rest hfuel hrest

/-- **A tree is read back from its text**, wherever that stands. -/
theorem Plain.readsBack (h : v.Plain) (hunsplit : v.Unsplit) : ReadsBack v := by
  induction h with
  | null => exact readsBack_of_succ .null fun _ _ position _ _ _ => ⟨position + 4, rfl⟩
  | bool b =>
    refine readsBack_of_succ (.bool b) fun _ _ position _ _ _ => ?_
    cases b with
    | false => exact ⟨position + 5, rfl⟩
    | true => exact ⟨position + 4, rfl⟩
  | int h =>
    refine readsBack_of_succ (.int h) fun _ _ position _ _ hrest => ?_
    exact ⟨_, (readValue_intText _ position).trans (readNumber_intText h hrest position)⟩
  | str s =>
    refine readsBack_of_succ (.str s) fun level fuel position rest _ _ => ?_
    have hs : s.Unsplit := by
      cases hunsplit with
      | str h => exact h
    obtain ⟨position', hread⟩ := readString_toList hs position (position + 1) rest
    refine ⟨position', ?_⟩
    change readValue none level (fuel + 1) ⟨stringLiteral s ++ rest, position⟩ = _
    rw [stringLiteral, List.cons_append, List.append_assoc, List.singleton_append, readValue]
    simp only [hread]
  | @arr items hplain ih =>
    refine readsBack_of_succ (.arr hplain) fun level fuel position rest hfuel _ => ?_
    have hitems : ∀ v ∈ items, v.Unsplit := by
      cases hunsplit with
      | arr h => exact h
    have ih : ∀ v ∈ items, ReadsBack v := fun v hv => ih v hv (hitems v hv)
    cases items with
    | nil => exact ⟨position + 2, rfl⟩
    | cons v items =>
      obtain ⟨hv, hitems⟩ := List.forall_mem_cons.mp ih
      obtain ⟨hvplain, hplain⟩ := List.forall_mem_cons.mp hplain
      have htext : print .interchange (.arr (v :: items)) ++ rest
          = .char '[' :: (print .interchange v
            ++ (printMoreItems .interchange items ++ .char ']' :: rest)) := by
        simp [print, printItems]
      simp only [print, printItems, List.length_cons, List.length_append, List.length_nil] at hfuel
      have hfuel' : (print .interchange v ++ printMoreItems .interchange items).length
          < fuel := by
        rw [List.length_append]
        omega
      obtain ⟨position', hread⟩ :=
        readItems_print hv hitems hplain hfuel' [] rest (position + 1)
      obtain ⟨c, text, hcons, hblank, hclose⟩ := exists_print_eq_cons hvplain
      rw [hcons, List.cons_append] at htext hread
      exact ⟨position', by rw [htext, readValue_bracket hblank hclose, hread]; rfl⟩
  | @obj entries hkeys hplain ih =>
    refine readsBack_of_succ (.obj hkeys hplain) fun level fuel position rest hfuel _ => ?_
    obtain ⟨hnames, hvalues⟩ : (∀ entry ∈ entries, entry.1.Unsplit) ∧
        ∀ entry ∈ entries, entry.2.Unsplit := by
      cases hunsplit with
      | obj hnames hvalues => exact ⟨hnames, hvalues⟩
    have ih : ∀ entry ∈ entries, ReadsBack entry.2 :=
      fun entry hentry => ih entry hentry (hvalues entry hentry)
    cases entries with
    | nil => exact ⟨position + 2, rfl⟩
    | cons entry entries =>
      obtain ⟨key, v⟩ := entry
      obtain ⟨hv, hentries⟩ := List.forall_mem_cons.mp ih
      obtain ⟨hvplain, hplain⟩ := List.forall_mem_cons.mp hplain
      obtain ⟨hkey, hnames⟩ := List.forall_mem_cons.mp hnames
      have htext : print .interchange (.obj ((key, v) :: entries)) ++ rest
          = .char '{' :: (stringLiteral key ++ .char ':' :: .char ' ' :: (print .interchange v
            ++ (printMoreEntries .interchange entries ++ .char '}' :: rest))) := by
        simp [print, printEntries, Spelling.interchange]
      simp only [print, printEntries, List.length_cons, List.length_append, List.length_nil]
        at hfuel
      have hfuel' : (print .interchange v ++ printMoreEntries .interchange entries).length
          < fuel := by
        rw [List.length_append]
        omega
      obtain ⟨position', hread⟩ :=
        readEntries_print hkey hnames hv hentries hvplain hplain hfuel' [] hkeys rest (position + 1)
      refine ⟨position', ?_⟩
      rw [htext]
      exact hread

theorem Plain.readText_line (h : v.Plain) (hunsplit : v.Unsplit) :
    readText none (print .interchange v ++ [CodePoint.char '\n']) = .ok v := by
  have hfuel : (print .interchange v).length
      ≤ 2 * (print .interchange v ++ [CodePoint.char '\n']).length + 2 := by
    rw [List.length_append]
    omega
  obtain ⟨position', hread⟩ :=
    h.readsBack hunsplit _ _ 0 [.char '\n'] hfuel (delimited_cons (by decide))
  rw [readText, skipBlanks_print h, hread]
  rfl

/-- **The text of a tree is read as that tree**, on a line of its own. -/
theorem Plain.parse_line (h : v.Plain) (hunsplit : v.Unsplit) :
    parse none (write v ++ "\n") = .ok v := by
  have htext : (write v ++ "\n").toList = print .interchange v ++ [.char '\n'] := rfl
  obtain ⟨c, text, hcons, -⟩ := exists_print_eq_cons h
  -- the text begins with a visible character, not with a byte order mark
  have hmark : c ≠ .char '\uFEFF' := by
    rintro rfl
    exact absurd (h.visible _ (by rw [hcons]; exact List.mem_cons_self)).2 (by decide)
  have hread := h.readText_line hunsplit
  rw [parse, htext]
  rw [hcons] at hread ⊢
  split
  · next heq => exact absurd (List.cons.inj heq).1 hmark
  · next heq => rw [parseUnmarked, hread]

end Gridwork.Json
