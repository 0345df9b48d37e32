import Gridwork.Proofs.Build.Request

/-!
# Where everything goes

The workbook that a request is built into, told place by place. A sheet form says for every place
which value stands there, if any (`SheetForm.value?`): the labels of the header in the first row and
below it the values of the data rows, each row from the first column on and without a gap. It also
says which style a row has. `SheetForm.Renders` says of a sheet that it shows exactly that.

The main result is `buildWorkbook_layout`: every sheet of a workbook that was built renders the form
at its index among those that the request describes, under its own name or, if that is taken, under
its name and a number.
-/

namespace Gridwork

/-- The type letter of the cell for a value. -/
def Json.cellKind : Json → Text
  | .null | .int _ | .float _ => "n"
  | .bool _ => "b"
  | .str _ | .arr _ | .obj _ => "s"

theorem Json.kind_content (v : Json) : v.content.kind = v.cellKind := by
  cases v <;> rfl

namespace SheetForm

variable {form : SheetForm}

/-! ### What a form says about a place -/

/-- The value at a place; rows and columns count from one. -/
def value? (form : SheetForm) : Nat → Nat → Option Json
  | 1, j + 1 => form.header.columns[j]?
  | k + 2, j + 1 => (form.rows[k]?).bind fun row => (row.columns[j]?).map Prod.snd
  | _, _ => none

/-- The style of a row. -/
def style? (form : SheetForm) : Nat → Option Style
  | 0 => none
  | 1 => some form.header.style
  | k + 2 => (form.rows[k]?).bind (·.style)

/-- The cell at a place. -/
def cell? (form : SheetForm) (row column : Nat) : Option Cell :=
  (form.value? row column).map fun v => ⟨row, column, v.content, form.style? row⟩

/-- A sheet that shows what a form says. -/
structure Renders (form : SheetForm) (s : Sheet) : Prop where
  /-- At every place the sheet shows what the form says, and no cell where that says nothing. -/
  cells : ∀ row column, s.cell? row column = form.cell? row column
  /-- No place was written twice. -/
  once : (s.cells.toList.map fun c => (c.row, c.column)).Nodup
  /-- Numbers, truth values and everything else have cells of their own type. -/
  kinds : ∀ row column v, form.value? row column = some v →
    ∃ c, s.cell? row column = some c ∧ c.content.kind = v.cellKind

/-- The cells of a form, told by its drafts. -/
theorem cell?_succ (form : SheetForm) (k j : Nat) :
    form.cell? (k + 1) (j + 1) = (form.drafts[k]?).bind fun d =>
      (d.entries[j]?).map fun entry => ⟨k + 1, j + 1, entry.content, d.style⟩ := by
  -- the first draft is the header, the others are the data rows
  cases k with
  | zero =>
    simp only [cell?, value?, style?, drafts, List.getElem?_cons_zero, Option.bind_some,
      HeaderPlan.draft, List.getElem?_map, Option.map_map]
    rfl
  | succ k =>
    simp only [cell?, value?, style?, drafts, List.getElem?_cons_succ, List.getElem?_map]
    cases form.rows[k]? with
    | none => rfl
    | some row =>
      simp only [Option.bind_some, Option.map_some, RowPlan.draft, List.getElem?_map,
        Option.map_map]
      rfl

theorem cell?_eq_some_iff {row column : Nat} {c : Cell} :
    form.cell? row column = some c ↔
      ∃ (k : Nat) (d : Draft), form.drafts[k]? = some d ∧
        ∃ (j : Nat) (entry : Entry), d.entries[j]? = some entry ∧
          c = ⟨k + 1, j + 1, entry.content, d.style⟩ ∧ row = k + 1 ∧ column = j + 1 := by
  cases row with
  | zero => simp [cell?, value?]
  | succ k =>
    cases column with
    | zero => cases k <;> simp [cell?, value?]
    | succ j =>
      rw [cell?_succ]
      simp only [Option.bind_eq_some_iff, Option.map_eq_some_iff]
      constructor
      · rintro ⟨d, hd, entry, hentry, rfl⟩
        exact ⟨k, d, hd, j, entry, hentry, rfl, rfl, rfl⟩
      · rintro ⟨k', d, hd, j', entry, hentry, rfl, hk, hj⟩
        obtain rfl := Nat.succ.inj hk
        obtain rfl := Nat.succ.inj hj
        exact ⟨d, hd, entry, hentry, rfl⟩

end SheetForm

/-! ### What a sheet holds -/

theorem Draft.mem_cells_iff {d : Draft} {row : Nat} {c : Cell} :
    c ∈ d.cells row ↔
      ∃ j entry, d.entries[j]? = some entry ∧ c = ⟨row, j + 1, entry.content, d.style⟩ := by
  simp only [cells, List.mem_map, Prod.exists, List.mem_zipIdx_iff_getElem?]
  constructor
  · rintro ⟨entry, j, h, rfl⟩
    exact ⟨j, entry, h, rfl⟩
  · rintro ⟨j, entry, h, rfl⟩
    exact ⟨entry, j, h, rfl⟩

theorem Sheet.mem_cells_addRows_iff {title : Text} {drafts : List Draft} {c : Cell} :
    c ∈ ((empty title 1).addRows drafts).cells.toList ↔
      ∃ (k : Nat) (d : Draft), drafts[k]? = some d ∧ c ∈ d.cells (k + 1) := by
  induction drafts using List.reverseRecOn with
  | nil => simp [addRows, empty]
  | append_singleton drafts d ih =>
    -- the last draft goes into the row that the cursor has reached
    have hrow : ((empty title 1).addRows drafts).nextRow.toNat = drafts.length + 1 := by
      simp only [addRows_nextRow, empty]
      omega
    rw [addRows_append_singleton, addRow_cells, List.mem_append, ih, hrow]
    simp only [getElem?_append_singleton_iff]
    constructor
    · rintro (⟨k, d', hk, hc⟩ | hc)
      · exact ⟨k, d', Or.inl hk, hc⟩
      · exact ⟨drafts.length, d, Or.inr ⟨rfl, rfl⟩, hc⟩
    · rintro ⟨k, d', hk | ⟨rfl, rfl⟩, hc⟩
      · exact Or.inl ⟨k, d', hk, hc⟩
      · exact Or.inr hc

/-- **A sheet shows what its form says.** -/
theorem SheetForm.renders_sheet {form : SheetForm} {title : Text}
    (h : (Sheet.empty title 1).Grows (form.sheet title)) : form.Renders (form.sheet title) := by
  have hcells : ∀ row column, (form.sheet title).cell? row column = form.cell? row column := by
    intro row column
    refine Option.ext fun c => ?_
    rw [Sheet.cell?_eq_some_iff h.ordered, sheet, Sheet.mem_cells_addRows_iff, cell?_eq_some_iff]
    simp only [Draft.mem_cells_iff]
    constructor
    · rintro ⟨⟨k, d, hd, j, entry, hentry, rfl⟩, rfl, rfl⟩
      exact ⟨k, d, hd, j, entry, hentry, rfl, rfl, rfl⟩
    · rintro ⟨k, d, hd, j, entry, hentry, rfl, rfl, rfl⟩
      exact ⟨⟨k, d, hd, j, entry, hentry, rfl⟩, rfl, rfl⟩
  refine ⟨hcells, h.ordered.nodup_places, fun row column v hv => ?_⟩
  refine ⟨⟨row, column, v.content, form.style? row⟩, ?_, v.kind_content⟩
  rw [hcells, cell?, hv, Option.map_some]

/-! ### What a workbook holds -/

/-- A title for a name beside earlier titles: the name itself or, if an earlier title differs from
it in case at most, the name and a number. -/
def Titled (earlier : List Text) (name title : Text) : Prop :=
  title = name ∨
    (∃ t ∈ earlier, Text.lower t = Text.lower name) ∧ ∃ n : Nat, title = name ++ toString n

/-- A workbook that holds what a series of forms says, sheet by sheet. -/
structure Workbook.Shows (w : Workbook) (forms : List SheetForm) : Prop where
  /-- There is one sheet for every form. -/
  length_eq : w.sheets.length = forms.length
  /-- Every sheet is titled after its form. -/
  titled : ∀ (i : Nat) (form : SheetForm) (s : Sheet), forms[i]? = some form →
    w.sheets[i]? = some s → Titled (w.titles.take i) form.name s.title
  /-- Every sheet shows what its form says. -/
  renders : ∀ (i : Nat) (form : SheetForm) (s : Sheet), forms[i]? = some form →
    w.sheets[i]? = some s → form.Renders s

/-- The sheet at an index stems from the form there and is titled beside those before it. -/
theorem Workbook.eq_sheet_of_getElem? {forms : List SheetForm} {i : Nat} {form : SheetForm}
    {s : Sheet} (hi : forms[i]? = some form) (hs : (empty.addForms forms).sheets[i]? = some s) :
    s = form.sheet (Title.given ((empty.addForms forms).titles.take i) form.name) := by
  induction forms using List.reverseRecOn with
  | nil => simp at hi
  | append_singleton forms last ih =>
    have hlen : (empty.addForms forms).sheets.length = forms.length :=
      (length_addForms empty forms).trans (Nat.zero_add _)
    have htitles : (empty.addForms forms).titles.length = forms.length := by
      rw [titles, List.length_map, hlen]
    rw [addForms_append_singleton, titles_addSheet]
    rw [addForms_append_singleton, addSheet] at hs
    rcases getElem?_append_singleton_iff.mp hi with hi | ⟨rfl, rfl⟩
    · -- an earlier sheet and the titles before it stay as they are
      have hlt : i < forms.length := (List.getElem?_eq_some_iff.mp hi).1
      rw [List.getElem?_append_left (by omega)] at hs
      rw [List.take_append_of_le_length (by omega)]
      exact ih hi hs
    · rcases getElem?_append_singleton_iff.mp hs with hs | ⟨-, rfl⟩
      · rw [← hlen, List.getElem?_eq_none (Nat.le_refl _)] at hs
        cases hs
      · rw [← htitles, List.take_left]

theorem Workbook.shows_addForms {forms : List SheetForm}
    (h : empty.Grows (empty.addForms forms)) : (empty.addForms forms).Shows forms := by
  refine ⟨(length_addForms empty forms).trans (Nat.zero_add _), fun i form s hi hs => ?_,
    fun i form s hi hs => ?_⟩
  · -- the title is the one that was given
    rw [eq_sheet_of_getElem? hi hs, SheetForm.sheet_title]
    rcases Title.given_eq_or ((empty.addForms forms).titles.take i) form.name with h | ⟨h, n, hn⟩
    · exact Or.inl h
    · exact Or.inr ⟨h, n, hn⟩
  · -- the sheet has grown from an empty one, so its cells are in order
    have hmem : s ∈ (empty.addForms forms).sheets := List.mem_of_getElem? hs
    obtain ⟨added, hadded, hgrows⟩ := h
    rw [hadded] at hmem
    have hs' := hgrows s hmem
    rw [eq_sheet_of_getElem? hi hs] at hs' ⊢
    rw [SheetForm.sheet_title] at hs'
    exact SheetForm.renders_sheet hs'

/-- **Where everything goes.** A workbook that was built shows what its request describes, sheet by
sheet and place by place, and nothing else. -/
theorem buildWorkbook_layout {request : Json} {w : Workbook} (hw : request.WellFormed)
    (h : (buildWorkbook request).outcome = .ok w) :
    ∃ forms, request.DescribesRequest forms ∧ w.Shows forms := by
  unfold buildWorkbook at h
  cases hbuild : Build.buildRequest request ⟨.empty, #[]⟩ with
  | error e p =>
    rw [hbuild] at h
    cases h
  | ok a p =>
    rw [hbuild] at h
    obtain rfl : p.state = w := Except.ok.inj h
    obtain ⟨forms, hforms, -, hgrows, rfl⟩ := (Build.ends_buildRequest hw).of_ok hbuild
    exact ⟨forms, hforms, Workbook.shows_addForms hgrows⟩

/-- A request with a styled row, a text that looks like a formula, and a repeated name. -/
def smallRequest : Json :=
  .obj [("note", .null), ("workbook", .obj [
    ("name", .str "Q1"),
    ("abas", .arr [
      .obj [("name", .str "Data"),
        ("header", .obj [("columns", .arr [.str "id", .str "sum"])]),
        ("rows", .arr [.obj [("id", .int 1), ("style", .obj [("bold", .bool true)]),
          ("sum", .str "=A1")]])],
      .obj [("nomeAba", .str "data"), ("header", .obj [("campos", .arr [])])]])])]

/-- The repeated name gets a number. -/
theorem buildWorkbook_layout_small : smallRequest.WellFormed ∧
    ∃ w, (buildWorkbook smallRequest).outcome = .ok w ∧ w.titles = ["Data", "data1"] ∧
      ∃ forms, smallRequest.DescribesRequest forms ∧ w.Shows forms := by
  have hwell : smallRequest.WellFormed := by decide
  obtain ⟨w, hbuilt, htitles⟩ := exists_ok_of_map
    (show (buildWorkbook smallRequest).outcome.toOption.map Workbook.titles
      = some (["Data", "data1"] : List Text) by decide +kernel)
  exact ⟨hwell, w, hbuilt, htitles, buildWorkbook_layout hwell hbuilt⟩

end Gridwork
