import Gridwork.Proofs.Build.Acceptance

/-!
# What a built workbook is made of

The sheets of a built workbook are those that the forms of its request describe, and the cells of
such a sheet are the values of its form, each at its own place:

* `eq_addForms_of_built` — the workbook is made of the forms of the request;
* `mem_sheets_addForms` and `exists_sheet_of_form` — sheets and forms go together;
* `SheetForm.mem_cells_sheet_iff` — the cells of a sheet, told by values.
-/

namespace Gridwork

/-- The cells of a sheet are the values of its form. -/
theorem SheetForm.mem_cells_sheet_iff {form : SheetForm} {title : Text} {c : Cell} :
    c ∈ (form.sheet title).cells.toList ↔
      ∃ row column v, form.value? row column = some v ∧
        c = ⟨row, column, v.content, form.style? row⟩ := by
  -- both sides go through the drafts of the form
  have hcell : c ∈ (form.sheet title).cells.toList ↔
      ∃ row column, form.cell? row column = some c := by
    rw [sheet, Sheet.mem_cells_addRows_iff]
    simp only [Draft.mem_cells_iff, cell?_eq_some_iff]
    constructor
    · rintro ⟨k, d, hd, j, entry, hentry, rfl⟩
      exact ⟨k + 1, j + 1, k, d, hd, j, entry, hentry, rfl, rfl, rfl⟩
    · rintro ⟨row, column, k, d, hd, j, entry, hentry, rfl, -, -⟩
      exact ⟨k, d, hd, j, entry, hentry, rfl⟩
  rw [hcell]
  simp only [cell?, Option.map_eq_some_iff]
  constructor
  · rintro ⟨row, column, v, hv, rfl⟩
    exact ⟨row, column, v, hv, rfl⟩
  · rintro ⟨row, column, v, hv, rfl⟩
    exact ⟨row, column, v, hv, rfl⟩

/-- A value stands in the header or in one of the data rows. -/
theorem SheetForm.mem_of_value? {form : SheetForm} {row column : Nat} {v : Json}
    (h : form.value? row column = some v) :
    v ∈ form.header.columns ∨ ∃ plan ∈ form.rows, ∃ entry ∈ plan.columns, entry.2 = v := by
  unfold value? at h
  split at h
  · exact Or.inl (List.mem_of_getElem? h)
  · obtain ⟨plan, hplan, h⟩ := Option.bind_eq_some_iff.mp h
    obtain ⟨entry, hentry, rfl⟩ := Option.map_eq_some_iff.mp h
    exact Or.inr ⟨plan, List.mem_of_getElem? hplan, entry, List.mem_of_getElem? hentry, rfl⟩
  · cases h

namespace Workbook

/-- Every sheet stems from a form and is titled after it. -/
theorem mem_sheets_addForms {forms : List SheetForm} {s : Sheet}
    (hs : s ∈ (empty.addForms forms).sheets) :
    ∃ form ∈ forms, ∃ titles, s = form.sheet (Title.given titles form.name) := by
  obtain ⟨i, hi⟩ := List.getElem?_of_mem hs
  have hlen : (empty.addForms forms).sheets.length = forms.length :=
    (length_addForms empty forms).trans (Nat.zero_add _)
  have hlt : i < forms.length := hlen ▸ (List.getElem?_eq_some_iff.mp hi).1
  exact ⟨forms[i], List.getElem_mem hlt, _, eq_sheet_of_getElem? (List.getElem?_eq_getElem hlt) hi⟩

/-- Every form has a sheet. -/
theorem exists_sheet_of_form {forms : List SheetForm} {form : SheetForm} (hform : form ∈ forms) :
    ∃ s ∈ (empty.addForms forms).sheets, ∃ title, s = form.sheet title := by
  obtain ⟨i, hi⟩ := List.getElem?_of_mem hform
  have hlen : (empty.addForms forms).sheets.length = forms.length :=
    (length_addForms empty forms).trans (Nat.zero_add _)
  have hlt : i < (empty.addForms forms).sheets.length :=
    hlen ▸ (List.getElem?_eq_some_iff.mp hi).1
  exact ⟨_, List.getElem_mem hlt, _, eq_sheet_of_getElem? hi (List.getElem?_eq_getElem hlt)⟩

end Workbook

/-- **What a workbook is made of**: the forms that its request describes, all titled. -/
theorem eq_addForms_of_built {request : Json} {w : Workbook} (hw : request.WellFormed)
    (h : (buildWorkbook request).outcome = .ok w) :
    ∃ forms, request.DescribesRequest forms ∧ Title.AllFit [] (forms.map (·.name)) ∧
      w = Workbook.empty.addForms forms := by
  obtain ⟨_, forms, hforms, hfit, -, heq⟩ := (Build.ends_buildRequest hw).of_built h
  exact ⟨forms, hforms, hfit, congrArg Progress.state heq⟩

/-- A request describes at least one sheet. -/
theorem Json.DescribesRequest.ne_nil {request : Json} {forms : List SheetForm}
    (h : request.DescribesRequest forms) : forms ≠ [] := by
  obtain ⟨-, hworkbook⟩ := h
  exact hworkbook.ne_nil

end Gridwork
