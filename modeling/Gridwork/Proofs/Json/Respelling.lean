import Gridwork.Field
import Gridwork.Proofs.Json.Node
import Gridwork.Proofs.Lists

/-!
# Requests that differ in the spelling of fields

A field of the vocabulary may be written under its canonical name or under an older one. Two
requests are **respellings** of each other (`Json.RespelledRequest`) if they are the same but for
the spelling of fields, in every object that building reads by field names: the workbook, its
sheets, their headers and the styles. Of a data row only the style is a field, all other keys are
columns.

`Entries.Respelled` is the relation between two objects: their entries agree one by one, in their
order. What "the same key" means is a parameter, since it differs between a data row and the rest,
and so is what two values under a key have in common. No two entries of one object may stand for the
same field, so that a field is found whichever spelling comes first: `Entries.Respelled.field?`.
-/

namespace Gridwork

/-! ### Spellings -/

namespace Field

/-- The spellings of a canonical name are the keys that stand for it. -/
theorem mem_spellings_iff {name : Text} (hname : canonical name = name) {k : Text} :
    k ∈ spellings name ↔ canonical k = name := by
  have hstands : ∀ a ∈ aliases, canonical a.1 = a.2 := by decide +kernel
  unfold spellings
  rw [List.mem_cons, List.mem_map]
  constructor
  · rintro (rfl | ⟨a, ha, rfl⟩)
    · exact hname
    · obtain ⟨hmem, heq⟩ := List.mem_filter.mp ha
      rw [hstands a hmem, eq_of_beq heq]
  · intro hk
    unfold canonical at hk
    cases hlookup : aliases.lookup k with
    | none =>
      rw [hlookup] at hk
      exact Or.inl hk
    | some target =>
      rw [hlookup] at hk
      obtain rfl : target = name := hk
      refine Or.inr ⟨(k, target), ?_, rfl⟩
      exact List.mem_filter.mpr ⟨mem_of_lookup hlookup, beq_self_eq_true target⟩

/-- A key without an older name is its own only spelling. -/
theorem canonical_eq_iff {name : Text} (hname : canonical name = name)
    (hspellings : spellings name = [name]) (k : Text) : canonical k = name ↔ k = name := by
  rw [← mem_spellings_iff hname, hspellings, List.mem_singleton]

/-- What holds alike of every older name and its canonical name holds alike of a key and the
canonical name that it stands for. -/
theorem canonical_congr {α : Type} (f : Text → α) (h : ∀ a ∈ aliases, f a.2 = f a.1)
    (k : Text) : f (canonical k) = f k := by
  unfold canonical
  cases hlookup : aliases.lookup k with
  | none => rfl
  | some target => exact h (k, target) (mem_of_lookup hlookup)

/-- Every spelling of a field is in the vocabulary, or none is. -/
theorem isAllowed_congr {k l : Text} (h : canonical k = canonical l) :
    isAllowed k = isAllowed l := by
  have hcanonical := canonical_congr isAllowed (by decide +kernel)
  rw [← hcanonical k, ← hcanonical l, h]

/-- Every spelling of a field opens the caller's data, or none does. -/
theorem isBusinessData_congr {k l : Text} (h : canonical k = canonical l) :
    isBusinessData k = isBusinessData l := by
  have hcanonical := canonical_congr isBusinessData (by decide +kernel)
  rw [← hcanonical k, ← hcanonical l, h]

/-- What a key of a data row stands for: the style, or the column of that name. -/
def rowKey (k : Text) : Text := if isStyle k then style else k

theorem isStyle_iff (k : Text) : isStyle k = true ↔ k ∈ spellings style := by
  have hspellings : spellings style = [style, "estilo"] := by decide
  rw [hspellings, isStyle]
  simp

theorem mem_spellings_style_iff {k : Text} : k ∈ spellings style ↔ rowKey k = style := by
  rw [← isStyle_iff, rowKey]
  split
  · next h => exact iff_of_true h rfl
  · next h =>
    refine iff_of_false h ?_
    rintro rfl
    exact h (by decide)

/-- Two keys of data rows that stand for the same are the same or both the style. -/
theorem eq_or_isStyle_of_rowKey_eq {k l : Text} (h : rowKey k = rowKey l) :
    k = l ∨ isStyle k = true ∧ isStyle l = true := by
  by_cases hk : isStyle k = true
  · have hl : rowKey l = style := by rw [← h, rowKey, if_pos hk]
    exact Or.inr ⟨hk, (isStyle_iff l).mpr (mem_spellings_style_iff.mpr hl)⟩
  · have hl : isStyle l ≠ true := by
      intro hl
      have hstyle : rowKey k = style := by rw [h, rowKey, if_pos hl]
      exact hk ((isStyle_iff k).mpr (mem_spellings_style_iff.mpr hstyle))
    rw [rowKey, rowKey, if_neg hk, if_neg hl] at h
    exact Or.inl h

theorem canonical_eq_of_rowKey_eq {k l : Text} (h : rowKey k = rowKey l) :
    canonical k = canonical l := by
  rcases eq_or_isStyle_of_rowKey_eq h with rfl | ⟨hk, hl⟩
  · rfl
  · have hstyle : canonical style = style := by decide
    rw [(mem_spellings_iff hstyle).mp ((isStyle_iff k).mp hk),
      (mem_spellings_iff hstyle).mp ((isStyle_iff l).mp hl)]

end Field

namespace Json

/-! ### Objects -/

/-- Two objects whose entries agree one by one: the keys stand for the same under `stands`, and the
values are related as `part` says of what the key stands for. -/
structure Entries.Respelled (stands : Text → Text) (part : Text → Json → Json → Prop)
    (a b : Entries) : Prop where
  /-- No two entries stand for the same. -/
  distinct : (a.map fun entry => stands entry.1).Nodup
  agree : List.Forall₂ (fun e e' => stands e.1 = stands e'.1 ∧ part (stands e.1) e.2 e'.2) a b

namespace Entries

variable {stands : Text → Text} {part : Text → Json → Json → Prop} {a b : Entries}

/-- The other object has no two entries that stand for the same, either. -/
theorem Respelled.distinct_right (h : Respelled stands part a b) :
    (b.map fun entry => stands entry.1).Nodup := by
  have hstands : (a.map fun entry => stands entry.1) = b.map fun entry => stands entry.1 := by
    rw [← List.forall₂_eq_eq_eq, List.forall₂_map_left_iff, List.forall₂_map_right_iff]
    exact h.agree.imp fun _ _ hentry => hentry.1
  rw [← hstands]
  exact h.distinct

/-- An entry is the only one that stands for a field, so it is found under whichever spelling. -/
theorem field?_eq_some_iff {name : Text} (hname : ∀ k, k ∈ Field.spellings name ↔ stands k = name)
    (hdistinct : (a.map fun entry => stands entry.1).Nodup) {v : Json} :
    a.field? name = some v ↔ ∃ k, stands k = name ∧ (k, v) ∈ a := by
  have hkeys : a.Distinct := by
    refine List.Nodup.of_map stands ?_
    rw [List.map_map]
    exact hdistinct
  constructor
  · intro h
    obtain ⟨k, hk, hget⟩ := List.exists_of_findSome?_eq_some h
    exact ⟨k, (hname k).mp hk, (get?_eq_some_iff hkeys).mp hget⟩
  · rintro ⟨k, hk, hmem⟩
    unfold field?
    cases hfind : (Field.spellings name).findSome? a.get? with
    | none =>
      have hnone := List.findSome?_eq_none_iff.mp hfind k ((hname k).mpr hk)
      rw [(get?_eq_some_iff hkeys).mpr hmem] at hnone
      cases hnone
    | some w =>
      obtain ⟨l, hl, hget⟩ := List.exists_of_findSome?_eq_some hfind
      -- both entries stand for the field, so they are one
      have heq : ((l, w) : Text × Json) = (k, v) := by
        refine List.inj_on_of_nodup_map hdistinct ((get?_eq_some_iff hkeys).mp hget) hmem ?_
        exact ((hname l).mp hl).trans hk.symm
      rw [(Prod.mk.inj heq).2]

/-- **A field is found in both objects or in none**, and its values are related. -/
theorem Respelled.field? (h : Respelled stands part a b) (name : Text)
    (hname : ∀ k, k ∈ Field.spellings name ↔ stands k = name) :
    Option.Rel (part name) (a.field? name) (b.field? name) := by
  have hleft := fun v => field?_eq_some_iff (v := v) hname h.distinct
  have hright := fun v => field?_eq_some_iff (v := v) hname h.distinct_right
  -- an entry for the field on one side has its partner on the other
  cases ha : a.field? name with
  | some v =>
    obtain ⟨k, hk, hmem⟩ := (hleft v).mp ha
    obtain ⟨⟨l, w⟩, hmem', hstands, hpart⟩ := exists_mem_right_of_forall₂ h.agree hmem
    dsimp only at hstands hpart
    rw [hk] at hstands hpart
    rw [(hright w).mpr ⟨l, hstands.symm, hmem'⟩]
    exact .some hpart
  | none =>
    cases hb : b.field? name with
    | none => exact .none
    | some w =>
      obtain ⟨k, hk, hmem⟩ := (hright w).mp hb
      obtain ⟨⟨l, v⟩, hmem', hstands, -⟩ := exists_mem_left_of_forall₂ h.agree hmem
      rw [(hleft v).mpr ⟨l, hstands.trans hk, hmem'⟩] at ha
      cases ha

/-- The values of a field are related, an absent one counting as null. -/
theorem Respelled.field (h : Respelled stands part a b) {name : Text}
    (hname : ∀ k, k ∈ Field.spellings name ↔ stands k = name) (hnull : part name null null) :
    part name (Entries.field a name) (Entries.field b name) := by
  have hfield := h.field? name hname
  unfold Entries.field
  generalize a.field? name = v at hfield
  generalize b.field? name = w at hfield
  cases hfield with
  | none => exact hnull
  | some hpart => exact hpart

/-- Under a key that is its own only spelling, the values are related. -/
theorem Respelled.get? (h : Respelled stands part a b) {k : Text}
    (hk : ∀ l, stands l = k ↔ l = k) : Option.Rel (part k) (a.get? k) (b.get? k) := by
  have hagree := h.agree
  induction hagree with
  | nil => exact .none
  | @cons e e' rest rest' hentry hrest ih =>
    obtain ⟨l, v⟩ := e
    obtain ⟨l', v'⟩ := e'
    obtain ⟨hstands, hpart⟩ := hentry
    dsimp only at hstands hpart
    unfold Entries.get?
    rw [List.lookup_cons, List.lookup_cons]
    by_cases hl : l = k
    · have hl' : l' = k := (hk l').mp (hstands.symm.trans ((hk l).mpr hl))
      rw [(hk l).mpr hl] at hpart
      rw [hl, hl', beq_self_eq_true]
      exact .some hpart
    · have hl' : ¬ l' = k := fun heq => hl ((hk l).mp (hstands.trans ((hk l').mpr heq)))
      rw [beq_eq_false_iff_ne.mpr (Ne.symm hl), beq_eq_false_iff_ne.mpr (Ne.symm hl')]
      exact ih ⟨(List.nodup_cons.mp h.distinct).2, hrest⟩

/-- Where the values must be the same, the objects give the same. -/
theorem Respelled.get?_eq (h : Respelled stands part a b) {k : Text}
    (hk : ∀ l, stands l = k ↔ l = k) (hpart : part k = Eq) : a.get? k = b.get? k := by
  have hrel := h.get? hk
  rw [hpart] at hrel
  exact eq_of_rel_eq hrel

end Entries

/-- Two values are the same, or two objects that agree entry by entry. -/
inductive Respelled (stands : Text → Text) (part : Text → Json → Json → Prop) :
    Json → Json → Prop
  | same (v : Json) : Respelled stands part v v
  | obj {a b : Entries} (h : Entries.Respelled stands part a b) :
      Respelled stands part (.obj a) (.obj b)

/-- Two values are the same, or two arrays that agree member by member. -/
inductive EachRespelled (member : Json → Json → Prop) : Json → Json → Prop
  | same (v : Json) : EachRespelled member v v
  | arr {as bs : List Json} (h : List.Forall₂ member as bs) :
      EachRespelled member (.arr as) (.arr bs)

theorem EachRespelled.imp {R S : Json → Json → Prop} {v w : Json} (h : EachRespelled R v w)
    (hRS : ∀ v w, R v w → S v w) : EachRespelled S v w := by
  cases h with
  | same => exact .same v
  | arr hmembers => exact .arr (hmembers.imp fun v w => hRS v w)

/-! ### The parts of a request -/

/-- What two values have in common under a field that is told apart, and under all others. -/
def underField (name : Text) (special : Json → Json → Prop) (rest : Text → Json → Json → Prop)
    (field : Text) : Json → Json → Prop :=
  if field = name then special else rest field

section UnderField

variable {name : Text} {special : Json → Json → Prop} {rest : Text → Json → Json → Prop}

theorem underField_self : underField name special rest name = special := if_pos rfl

theorem underField_of_ne {field : Text} (h : field ≠ name) :
    underField name special rest field = rest field := if_neg h

/-- What follows from the values' relation under every field. -/
theorem underField_imp {goal : Json → Json → Prop} (hspecial : ∀ v w, special v w → goal v w)
    (hrest : ∀ k v w, rest k v w → goal v w) (k : Text) (v w : Json)
    (h : underField name special rest k v w) : goal v w := by
  unfold underField at h
  split at h
  · exact hspecial v w h
  · exact hrest k v w h

/-- What keeps the values related under every field. -/
theorem underField_map {f : Json → Json} (hspecial : ∀ v w, special v w → special (f v) (f w))
    (hrest : ∀ k v w, rest k v w → rest k (f v) (f w)) (k : Text) (v w : Json)
    (h : underField name special rest k v w) : underField name special rest k (f v) (f w) := by
  unfold underField at h ⊢
  split
  · next hk =>
    rw [if_pos hk] at h
    exact hspecial v w h
  · next hk =>
    rw [if_neg hk] at h
    exact hrest k v w h

end UnderField

/-- A style: its fields may be respelled, and have the same values. -/
def RespelledStyle : Json → Json → Prop := Respelled Field.canonical fun _ => Eq

/-- What the values of a header or a data row have in common. -/
def stylePart : Text → Json → Json → Prop := underField Field.style RespelledStyle fun _ => Eq

/-- A header: its fields may be respelled, and those of its style. -/
def RespelledHeader : Json → Json → Prop := Respelled Field.canonical stylePart

/-- A data row: its style may be respelled, and the fields of that. All other keys are columns. -/
def RespelledRow : Json → Json → Prop := Respelled Field.rowKey stylePart

/-- What the values of a sheet have in common. -/
def sheetPart : Text → Json → Json → Prop :=
  underField Field.header RespelledHeader
    (underField Field.rows (EachRespelled RespelledRow) fun _ => Eq)

/-- A sheet: its fields may be respelled, and those of its header and its data rows. -/
def RespelledSheet : Json → Json → Prop := Respelled Field.canonical sheetPart

/-- What the values of a workbook have in common. -/
def workbookPart : Text → Json → Json → Prop :=
  underField Field.sheets (EachRespelled RespelledSheet) fun _ => Eq

/-- A workbook: its fields may be respelled, and those of its sheets. -/
def RespelledWorkbook : Json → Json → Prop := Respelled Field.canonical workbookPart

/-- What the values of a request have in common. -/
def requestPart : Text → Json → Json → Prop :=
  underField Field.workbook RespelledWorkbook fun _ => Eq

/-- **Respelled requests.** The workbook may be respelled; its own key has one spelling only. -/
def RespelledRequest : Json → Json → Prop := Respelled id requestPart

/-! ### Looking up the parts -/

section Lookup

variable {a b : Entries} {part : Text → Json → Json → Prop}

/-- A field of the vocabulary, looked up by its canonical name. -/
theorem Entries.Respelled.field_of (h : Entries.Respelled Field.canonical part a b) (name : Text)
    (hname : Field.canonical name = name) {R : Json → Json → Prop} (hpart : part name = R)
    (hnull : R null null) : R (Entries.field a name) (Entries.field b name) := by
  subst hpart
  exact h.field (fun _ => Field.mem_spellings_iff hname) hnull

theorem Entries.Respelled.columns_of_header
    (h : Entries.Respelled Field.canonical stylePart a b) :
    Entries.field a Field.columns = Entries.field b Field.columns :=
  h.field_of Field.columns (by decide) (underField_of_ne (by decide)) rfl

theorem Entries.Respelled.name_of_sheet (h : Entries.Respelled Field.canonical sheetPart a b) :
    Entries.field a Field.name = Entries.field b Field.name :=
  h.field_of Field.name (by decide)
    ((underField_of_ne (by decide)).trans (underField_of_ne (by decide))) rfl

theorem Entries.Respelled.header_of_sheet (h : Entries.Respelled Field.canonical sheetPart a b) :
    RespelledHeader (Entries.field a Field.header) (Entries.field b Field.header) :=
  h.field_of Field.header (by decide) underField_self (.same _)

theorem Entries.Respelled.rows_of_sheet (h : Entries.Respelled Field.canonical sheetPart a b) :
    EachRespelled RespelledRow (Entries.field a Field.rows) (Entries.field b Field.rows) :=
  h.field_of Field.rows (by decide) ((underField_of_ne (by decide)).trans underField_self) (.same _)

theorem Entries.Respelled.name_of_workbook
    (h : Entries.Respelled Field.canonical workbookPart a b) :
    Entries.field a Field.name = Entries.field b Field.name :=
  h.field_of Field.name (by decide) (underField_of_ne (by decide)) rfl

theorem Entries.Respelled.sheets_of_workbook
    (h : Entries.Respelled Field.canonical workbookPart a b) :
    EachRespelled RespelledSheet (Entries.field a Field.sheets) (Entries.field b Field.sheets) :=
  h.field_of Field.sheets (by decide) underField_self (.same _)

/-- Both requests have a workbook or neither has. -/
theorem Entries.Respelled.workbook_of_request (h : Entries.Respelled id requestPart a b) :
    Option.Rel RespelledWorkbook (a.get? Field.workbook) (b.get? Field.workbook) := by
  have hpart : requestPart Field.workbook = RespelledWorkbook := underField_self
  have hget := h.get? (k := Field.workbook) fun _ => Iff.rfl
  rwa [hpart] at hget

end Lookup

end Json

end Gridwork
