import Gridwork.Json.Display
import Gridwork.Json.Reader
import Gridwork.Proofs.Json.Node
import Mathlib.Data.List.Induction
import Mathlib.Data.List.TakeWhile
import Mathlib.Data.Nat.Digits.Defs

/-!
# What the reader gives

A tree that is read from a text is put together from leaves, arrays and objects. An object is read
entry by entry, and a key that is there already keeps its place and takes the new value
(`addEntry`), so no object repeats a key; and no whole number has more digits than may be read. What
holds of leaves of that kind, and of arrays and objects if it holds of their parts, is said of trees
by `ReadProperty`, and it holds of every tree that is read (`ReadProperty.of_parse`). Two such
properties are being well-formed (`wellFormed_of_parse`), and having only numbers that can be
written again (`isWritable_of_parse`).
-/

namespace Gridwork.Json

/-! ### Adding to what was read -/

variable {P : Json → Prop}

/-- An entry is added to an object without repeating a key. -/
theorem distinct_addEntry {key : Text} {v : Json} {done : Entries} (h : done.Distinct) :
    Entries.Distinct (addEntry key v done) := by
  unfold addEntry
  by_cases hkey : done.any (·.1 == key) = true
  · -- the keys stay as they are
    have hsame : (done.map fun e => if e.1 == key then (key, v) else e).map Prod.fst
        = done.map Prod.fst := by
      rw [List.map_map]
      refine List.map_congr_left fun e _ => ?_
      by_cases he : e.1 = key <;> simp [he]
    rw [if_pos hkey, Entries.Distinct, hsame]
    exact h
  · -- the key is new, so it does not repeat one
    rw [if_neg hkey]
    have hnew : key ∉ done.map Prod.fst := by
      intro hmem
      obtain ⟨e, he, heq⟩ := List.mem_map.mp hmem
      exact hkey (List.any_eq_true.mpr ⟨e, he, by simpa using heq⟩)
    exact List.nodup_cons.mpr ⟨hnew, h⟩

/-- Every value of the object is the new one or was there before. -/
theorem forall_mem_addEntry {key : Text} {v : Json} {done : Entries} (hv : P v)
    (h : ∀ entry ∈ done, P entry.2) : ∀ entry ∈ addEntry key v done, P entry.2 := by
  unfold addEntry
  split
  · intro entry hentry
    obtain ⟨old, hold, rfl⟩ := List.mem_map.mp hentry
    split
    · exact hv
    · exact h old hold
  · exact List.forall_mem_cons.mpr ⟨hv, h⟩

/-! ### Properties of what is read -/

/-- A property that trees have if their parts have it. Of whole numbers and objects no more is asked
than that they may be read. -/
structure ReadProperty (P : Json → Prop) : Prop where
  null : P .null
  bool : ∀ b, P (.bool b)
  int : ∀ n : Int, n.natAbs < 10 ^ maxDigits → P (.int n)
  float : ∀ x, P (.float x)
  str : ∀ s, P (.str s)
  arr : ∀ items, (∀ v ∈ items, P v) → P (.arr items)
  obj : ∀ entries : Entries, entries.Distinct → (∀ entry ∈ entries, P entry.2) → P (.obj entries)

/-- The tree of a result. -/
private theorem eq_of_ok {v w : Json} {c c' : Cursor}
    (h : (Except.ok (v, c) : Except Halt (Json × Cursor)) = .ok (w, c')) : w = v :=
  (Prod.mk.inj (Except.ok.inj h)).1.symm

theorem toNat_sub_lt_of_isDigit {c : CodePoint} (h : c.isDigit = true) :
    c.toNat - '0'.toNat < 10 := by
  cases c with
  | char c =>
    simp only [CodePoint.isDigit_char, Char.isDigit, Bool.and_eq_true, decide_eq_true_eq] at h
    have hnine : c.toNat ≤ 57 := h.2
    rw [CodePoint.toNat_char]
    exact (by omega : c.toNat - 48 < 10)
  | high | low => cases h

/-- So many digits write a number below a power of ten. -/
theorem natOfDigits_lt {digits : List CodePoint} (h : ∀ c ∈ digits, c.isDigit = true) :
    natOfDigits digits < 10 ^ digits.length := by
  induction digits using List.reverseRecOn with
  | nil => exact Nat.one_pos
  | append_singleton digits c ih =>
    simp only [List.forall_mem_append, List.forall_mem_singleton] at h
    have hrest := ih h.1
    have hc := toNat_sub_lt_of_isDigit h.2
    rw [natOfDigits, List.foldl_append, List.length_append, List.length_singleton, Nat.pow_succ]
    change 10 * natOfDigits digits + (c.toNat - '0'.toNat) < _
    omega

/-- The whole part of a number consists of digits. -/
theorem isDigit_of_readWhole {text whole rest : List CodePoint}
    (h : readWhole text = some (whole, rest)) : ∀ c ∈ whole, c.isDigit = true := by
  unfold readWhole at h
  split at h
  · obtain ⟨rfl, -⟩ := Prod.mk.inj (Option.some.inj h)
    exact List.forall_mem_singleton.mpr (by decide)
  · next c text _ =>
    split at h
    · next hc =>
      obtain ⟨rfl, -⟩ := Prod.mk.inj (Option.some.inj h)
      exact List.forall_mem_cons.mpr ⟨hc, fun d hd => List.mem_takeWhile_imp hd⟩
    · cases h
  · cases h

theorem ReadProperty.of_readNumber (hP : ReadProperty P) {c c' : Cursor} {v : Json}
    (h : readNumber c = .ok (v, c')) : P v := by
  unfold readNumber at h
  split at h
  dsimp only at h
  split at h
  · cases h
  · next whole _ hwhole =>
    -- with or without an exponent, the number is a whole number or a double
    split at h
    all_goals
      split at h
      · split at h
        · cases h
        · next hlength =>
          rw [eq_of_ok h]
          refine hP.int _ ?_
          have hlt := natOfDigits_lt (isDigit_of_readWhole hwhole)
          have hpow : 10 ^ whole.length ≤ 10 ^ maxDigits :=
            Nat.pow_le_pow_right (by decide) (Nat.not_lt.mp hlength)
          split <;> omega
      · rw [eq_of_ok h]
        exact hP.float _

/-- What is read in so many steps has the property if what was read before it has. -/
private structure Reads (P : Json → Prop) (room : Option Nat) (fuel : Nat) : Prop where
  value : ∀ {level c v c'}, readValue room level fuel c = .ok (v, c') → P v
  items : ∀ {level done c v c'}, (∀ w ∈ done, P w) →
    readItems room level fuel done c = .ok (v, c') → P v
  entries : ∀ {level done c v c'}, Entries.Distinct done → (∀ entry ∈ done, P entry.2) →
    readEntries room level fuel done c = .ok (v, c') → P v

section Reads

variable {room : Option Nat} {fuel level : Nat} {c c' : Cursor} {v : Json}

private theorem reads_zero : Reads P room 0 where
  value h := by rw [readValue] at h; cases h
  items _ h := by rw [readItems] at h; cases h
  entries _ _ h := by rw [readEntries] at h; cases h

private theorem Reads.succ_value (ih : Reads P room fuel) (hP : ReadProperty P)
    (h : readValue room level (fuel + 1) c = .ok (v, c')) : P v := by
  rw [readValue] at h
  -- by the character that the value begins with
  split at h
  case h_1 =>
    -- a string
    split at h
    · rw [eq_of_ok h]
      exact hP.str _
    · cases h
  case h_2 =>
    -- an array, which may be closed at once
    split at h
    · dsimp only at h
      split at h
      · rw [eq_of_ok h]
        exact hP.arr [] (by simp)
      · exact ih.items (by simp) h
    · cases h
  case h_3 =>
    -- an object, which may be closed at once
    split at h
    · dsimp only at h
      split at h
      · rw [eq_of_ok h]
        exact hP.obj [] (by simp [Entries.Distinct]) (by simp)
      · exact ih.entries (by simp [Entries.Distinct]) (by simp) h
    · cases h
  case h_10 => exact hP.of_readNumber h
  -- a word of the language stands for a value without parts
  case h_4 => rw [eq_of_ok h]; exact hP.null
  case h_5 | h_6 => rw [eq_of_ok h]; exact hP.bool _
  all_goals rw [eq_of_ok h]; exact hP.float _

private theorem Reads.succ_items (ih : Reads P room fuel) (hP : ReadProperty P) {done : List Json}
    (hdone : ∀ w ∈ done, P w) (h : readItems room level (fuel + 1) done c = .ok (v, c')) : P v := by
  rw [readItems] at h
  split at h
  · cases h
  · next w c₁ hread =>
    have hmore : ∀ u ∈ w :: done, P u := List.forall_mem_cons.mpr ⟨ih.value hread, hdone⟩
    dsimp only at h
    split at h
    · rw [eq_of_ok h]
      exact hP.arr _ fun u hu => hmore u (List.mem_reverse.mp hu)
    · exact ih.items hmore h
    · cases h

private theorem Reads.succ_entries (ih : Reads P room fuel) (hP : ReadProperty P) {done : Entries}
    (hkeys : done.Distinct) (hdone : ∀ entry ∈ done, P entry.2)
    (h : readEntries room level (fuel + 1) done c = .ok (v, c')) : P v := by
  rw [readEntries] at h
  split at h
  · split at h
    · cases h
    · dsimp only at h
      split at h
      · split at h
        · cases h
        · next w c₁ hread =>
          have hmore := fun key => @forall_mem_addEntry _ key _ _ (ih.value hread) hdone
          have hnew := fun key => @distinct_addEntry key w _ hkeys
          split at h
          · rw [eq_of_ok h]
            refine hP.obj _ ?_ fun entry hentry => hmore _ entry (List.mem_reverse.mp hentry)
            rw [Entries.Distinct, List.map_reverse, List.nodup_reverse]
            exact hnew _
          · exact ih.entries (hnew _) (hmore _) h
          · cases h
      · cases h
  · cases h

private theorem reads (hP : ReadProperty P) (room : Option Nat) (fuel : Nat) :
    Reads P room fuel := by
  -- on the fuel, which the three readers share
  induction fuel with
  | zero => exact reads_zero
  | succ fuel ih => exact ⟨ih.succ_value hP, ih.succ_items hP, ih.succ_entries hP⟩

end Reads

/-! ### Reading texts -/

variable {room : Option Nat}

theorem ReadProperty.of_readText (hP : ReadProperty P) {text : List CodePoint} {v : Json}
    (h : readText room text = .ok v) : P v := by
  unfold readText at h
  split at h
  · cases h
  · next w c hread =>
    dsimp only at h
    split at h
    · obtain rfl := Except.ok.inj h
      exact (reads hP room _).value hread
    · cases h

theorem ReadProperty.of_parseUnmarked (hP : ReadProperty P) {text : List CodePoint} {v : Json}
    (h : parseUnmarked room text = .ok v) : P v := by
  unfold parseUnmarked at h
  split at h
  · next w hread =>
    obtain rfl := Except.ok.inj h
    exact hP.of_readText hread
  all_goals cases h

/-- **What is read has the property.** -/
theorem ReadProperty.of_parse (hP : ReadProperty P) {s : Text} {v : Json}
    (h : parse room s = .ok v) : P v := by
  unfold parse at h
  split at h
  · cases h
  · exact hP.of_parseUnmarked h

theorem readProperty_wellFormed : ReadProperty WellFormed where
  null := by rw [WellFormed] <;> simp
  bool _ := by rw [WellFormed] <;> simp
  int _ _ := by rw [WellFormed] <;> simp
  float _ := by rw [WellFormed] <;> simp
  str _ := by rw [WellFormed] <;> simp
  arr items h := (wellFormed_arr_iff items).mpr h
  obj entries hkeys h := (wellFormed_obj_iff entries).mpr ⟨hkeys, h⟩

theorem readProperty_isWritable : ReadProperty fun v => v.isWritable = true where
  null := rfl
  bool _ := rfl
  int n h := by
    rw [isWritable_int]
    exact decide_eq_true h
  float _ := rfl
  str _ := rfl
  arr items h := by rwa [isWritable_arr, itemsWritable_iff]
  obj entries _ h := by rwa [isWritable_obj, entriesWritable_iff]

/-- **What is read is well-formed.** -/
theorem wellFormed_of_parse {s : Text} {v : Json} (h : parse room s = .ok v) : v.WellFormed :=
  readProperty_wellFormed.of_parse h

/-- **What is read can be written again.** -/
theorem isWritable_of_parse {s : Text} {v : Json} (h : parse room s = .ok v) :
    v.isWritable = true :=
  readProperty_isWritable.of_parse h

end Gridwork.Json
