import Gridwork.Field
import Gridwork.Json.Display
import Gridwork.Proofs.Formula.Sanitizing
import Gridwork.Proofs.Lists

/-!
# Properties that go down a tree

Messages show texts and trees of a request. Whether they can be written or sent depends on a
property of the request that goes down to all of its parts: it holds of a tree exactly if it holds
of the members and values in it and of its texts and keys. `Json.Hereditary T P` says so of the
property `P`, for which `T` is what it comes to for a text. Texts of the program's own have `T`, and
so have texts that are put together from others that have it. A part of a tree that has `P` then has
it too, under whichever spelling it is found, and sanitizing formulas brings in nothing that does
not (`Hereditary.sanitizeFormulas`).

There are two such properties: that no whole number is too long to be written
(`hereditary_isWritable`), and that every text can be encoded (`hereditary_isEncodable`).
-/

namespace Gridwork.Json

/-- A property of trees that goes down to their parts. -/
structure Hereditary (T : Text → Prop) (P : Json → Prop) : Prop where
  /-- Texts of the program's own have it. -/
  string : ∀ s : String, T s
  /-- So has what is put together from texts that have it. -/
  append : ∀ {s t : Text}, T s → T t → T (s ++ t)
  null : P .null
  /-- A text, an array or an object has it if all that is in it does. -/
  str_iff : ∀ {s : Text}, P (.str s) ↔ T s
  arr_iff : ∀ {items : List Json}, P (.arr items) ↔ ∀ v ∈ items, P v
  obj_iff : ∀ {entries : Entries}, P (.obj entries) ↔ ∀ entry ∈ entries, T entry.1 ∧ P entry.2

/-! ### Parts of a tree -/

namespace Hereditary

variable {T : Text → Prop} {P : Json → Prop} (h : Hereditary T P)
include h

/-- A text that can be encoded is a string. -/
theorem of_isEncodable {t : Text} (ht : t.isEncodable = true) : T t := by
  obtain ⟨s, rfl⟩ := Text.isEncodable_iff.mp ht
  exact h.string s

theorem item {items : List Json} (harr : P (.arr items)) {v : Json} (hv : v ∈ items) : P v :=
  h.arr_iff.mp harr v hv

section Entries

variable {entries : Entries} (hobj : P (.obj entries))
include hobj

theorem entry {entry : Text × Json} (hentry : entry ∈ entries) : P entry.2 :=
  (h.obj_iff.mp hobj entry hentry).2

theorem key {entry : Text × Json} (hentry : entry ∈ entries) : T entry.1 :=
  (h.obj_iff.mp hobj entry hentry).1

theorem get? {key : Text} {v : Json} (hget : entries.get? key = some v) : P v :=
  h.entry hobj (mem_of_lookup hget)

/-- Null has the property too. -/
theorem value (key : Text) : P ((entries.get? key).getD .null) := by
  cases hget : entries.get? key with
  | none => exact h.null
  | some v => exact h.get? hobj hget

theorem field? {name : Text} {v : Json} (hfield : entries.field? name = some v) : P v := by
  obtain ⟨spelling, -, hget⟩ := List.exists_of_findSome?_eq_some hfield
  exact h.get? hobj hget

theorem field (name : Text) : P (entries.field name) := by
  rw [Entries.field]
  cases hfield : entries.field? name with
  | none => exact h.null
  | some v => exact h.field? hobj hfield

end Entries

/-! ### Places, which are made of keys, field names and numbers -/

section Places

variable {path : Text} (hpath : T path)
include hpath

theorem dot {name : Text} (hname : T name) : T (path ++ "." ++ name) :=
  h.append (h.append hpath (h.string _)) hname

theorem joinIndex (i : Nat) : T (joinIndex path i) :=
  h.append (h.append (h.append hpath (h.string _)) (h.string _)) (h.string _)

/-- One step further. -/
theorem extend {step : Step} (hstep : ∀ k, step = .key k → T k) : T (step.extend path) := by
  cases step with
  | index i => exact h.joinIndex hpath i
  | key k =>
    rw [Step.extend, joinKey]
    split
    · exact hstep k rfl
    · exact h.dot hpath (hstep k rfl)

end Places

/-! ### Sanitized trees -/

/-- A clean expression is made of characters. -/
theorem clean (e : Text) : T (Formula.clean e) := by
  refine h.of_isEncodable ?_
  rw [Text.isEncodable, List.all_eq_true]
  intro c hc
  have hallowed := (List.mem_filter.mp hc).2
  cases c with
  | char c => rfl
  | high | low => cases hallowed

/-- **Nothing comes in by sanitizing.** -/
theorem sanitizeFormulas (v : Json) : P v → P v.sanitizeFormulas := by
  -- on the tree, one layer at a time
  induction v using induction_children with
  | node v ih =>
    cases v with
    | null | bool | int | float | str =>
      rw [Json.sanitizeFormulas]
      · exact id
      all_goals intros; contradiction
    | arr items =>
      intro harr
      rw [Json.sanitizeFormulas, sanitizeItems_eq_map, h.arr_iff]
      refine List.forall_mem_map.mpr fun item hitem => ?_
      obtain ⟨i, hchild⟩ := exists_mem_children_of_item hitem
      exact ih _ hchild (h.item harr hitem)
    | obj entries =>
      intro hobj
      cases hexpr : Formula.expression? entries with
      | some e =>
        rw [sanitizeFormulas_obj_of_some hexpr, h.obj_iff]
        refine List.forall_mem_map.mpr fun entry hentry => ?_
        have hkey : T entry.1 := h.key hobj hentry
        split
        · exact ⟨hkey, h.str_iff.mpr (h.clean e)⟩
        · exact ⟨hkey, h.entry hobj hentry⟩
      | none =>
        rw [sanitizeFormulas_obj_of_none hexpr, h.obj_iff]
        refine List.forall_mem_map.mpr fun entry hentry => ?_
        have hkey : T entry.1 := h.key hobj hentry
        exact ⟨hkey, ih _ (mem_children_of_entry hentry) (h.entry hobj hentry)⟩

end Hereditary

/-! ### Trees that are shown -/

mutual

/-- A tree is shown in characters, since the texts in it are quoted. -/
theorem isEncodable_print : (v : Json) → Text.isEncodable ⟨print .message v⟩ = true
  | .null | .bool true | .bool false => rfl
  | .int _ | .float _ | .str _ => Text.isEncodable_ofString _
  | .arr items => by
    have hitems := isEncodable_printItems items
    simp only [Text.isEncodable, print, List.all_cons, List.all_append] at hitems ⊢
    rw [hitems]
    rfl
  | .obj entries => by
    have hentries := isEncodable_printEntries entries
    simp only [Text.isEncodable, print, List.all_cons, List.all_append] at hentries ⊢
    rw [hentries]
    rfl

theorem isEncodable_printItems :
    (items : List Json) → Text.isEncodable ⟨printItems .message items⟩ = true
  | [] => rfl
  | v :: rest => by
    have hv := isEncodable_print v
    have hrest := isEncodable_printMoreItems rest
    simp only [Text.isEncodable, printItems, List.all_append] at hv hrest ⊢
    rw [hv, hrest]
    rfl

theorem isEncodable_printMoreItems :
    (items : List Json) → Text.isEncodable ⟨printMoreItems .message items⟩ = true
  | [] => rfl
  | v :: rest => by
    have hv := isEncodable_print v
    have hrest := isEncodable_printMoreItems rest
    simp only [Text.isEncodable, printMoreItems, List.all_cons, List.all_append] at hv hrest ⊢
    rw [hv, hrest]
    rfl

theorem isEncodable_printEntries :
    (entries : List (Text × Json)) → Text.isEncodable ⟨printEntries .message entries⟩ = true
  | [] => rfl
  | (k, v) :: rest => by
    have hk : Text.isEncodable ⟨Spelling.message.str k⟩ = true := Text.isEncodable_ofString _
    have hv := isEncodable_print v
    have hrest := isEncodable_printMoreEntries rest
    simp only [Text.isEncodable, printEntries, List.all_cons, List.all_append] at hk hv hrest ⊢
    rw [hk, hv, hrest]
    rfl

theorem isEncodable_printMoreEntries :
    (entries : List (Text × Json)) → Text.isEncodable ⟨printMoreEntries .message entries⟩ = true
  | [] => rfl
  | (k, v) :: rest => by
    have hk : Text.isEncodable ⟨Spelling.message.str k⟩ = true := Text.isEncodable_ofString _
    have hv := isEncodable_print v
    have hrest := isEncodable_printMoreEntries rest
    simp only [Text.isEncodable, printMoreEntries, List.all_cons, List.all_append] at hk hv hrest ⊢
    rw [hk, hv, hrest]
    rfl

end

/-- What is shown of a tree has the property too. -/
theorem Hereditary.display {T : Text → Prop} {P : Json → Prop} (h : Hereditary T P) {v : Json}
    (hv : P v) : T v.display := by
  cases v with
  | str s => exact h.str_iff.mp hv
  | null | bool | int | float | arr | obj => exact h.of_isEncodable (isEncodable_print _)

/-! ### The two properties -/

/-- Whether numbers can be written does not depend on texts. -/
theorem hereditary_isWritable : Hereditary (fun _ => True) (·.isWritable = true) where
  string _ := trivial
  append _ _ := trivial
  null := rfl
  str_iff := iff_of_true rfl trivial
  arr_iff := by simp [itemsWritable_iff]
  obj_iff := by simp [entriesWritable_iff]

theorem hereditary_isEncodable : Hereditary (·.isEncodable = true) (·.isEncodable = true) where
  string := Text.isEncodable_ofString
  append := Text.isEncodable_append
  null := rfl
  str_iff := by simp
  arr_iff := by simp [itemsEncodable_iff]
  obj_iff := by simp [entriesEncodable_iff]

end Gridwork.Json
