import Gridwork.Proofs.Build.Row
import Gridwork.Proofs.Lists
import Gridwork.Proofs.Style.Reading
import Gridwork.Proofs.Workbook.Title

/-!
# What a request describes

The grammar of requests, as relations between a node and what it describes: a header, a data row,
a sheet (`SheetForm`), a series of sheets. Fields are found under any of their spellings, the
canonical one first (`Json.Entries.field?`), and what is absent is told apart from what is null only
where the grammar does so: a style field that is present must resolve, even if it is null.

The relations do not mention paths or errors. For every kind of node there is a lemma that ties its
relation to the reader of that node, `describesHeader_iff` and so on, at any path. Hence a node
describes at most one thing (`DescribesSheet.unique` and so on).
-/

namespace Gridwork

/-- What a node of a sheet describes. -/
structure SheetForm where
  name : Text
  header : HeaderPlan
  rows : List RowPlan

namespace Json

/-! ### The grammar -/

/-- The style of an object: none without a style field, else what that field resolves to. -/
inductive Entries.Styled (entries : Entries) : Option Style → Prop
  | absent (h : entries.field? Field.style = none) : Entries.Styled entries none
  | present {spec : Json} {s : Style} (h : entries.field? Field.style = some spec)
      (hs : Style.Resolves spec s) : Entries.Styled entries (some s)

/-- The columns of a data row: all its entries but the style. -/
def Entries.columns (entries : Entries) : Entries :=
  entries.filter fun entry => !Field.isStyle entry.1

/-- A header: an array of legible labels and perhaps a style. -/
inductive DescribesHeader : Json → HeaderPlan → Prop
  | obj {entries : Entries} {labels : List Json} {style : Option Style}
      (hcolumns : Entries.field entries Field.columns = .arr labels)
      (hlabels : ∀ v ∈ labels, v.IsLabel) (hstyle : Entries.Styled entries style) :
      DescribesHeader (.obj entries) ⟨style.getD Style.headerDefault, labels⟩

/-- A data row: perhaps a style, and values that can be written. -/
inductive DescribesRow : Json → RowPlan → Prop
  | obj {entries : Entries} {style : Option Style} (hstyle : Entries.Styled entries style)
      (hvalues : ∀ column ∈ Entries.columns entries, column.2.Writable) :
      DescribesRow (.obj entries) ⟨style, Entries.columns entries⟩

/-- The data rows of a sheet: null, which also stands for their absence, or an array of rows. -/
inductive DescribesRows : Json → List RowPlan → Prop
  | null : DescribesRows .null []
  | arr {nodes : List Json} {plans : List RowPlan} (h : List.Forall₂ DescribesRow nodes plans) :
      DescribesRows (.arr nodes) plans

/-- A sheet: a name that can be a title, a header, and data rows. -/
inductive DescribesSheet : Json → SheetForm → Prop
  | obj {entries : Entries} {form : SheetForm}
      (hname : Entries.field entries Field.name = .str form.name) (hnonempty : form.name ≠ "")
      (hvalid : ∀ c ∈ form.name.toList, Title.isInvalidChar c = false)
      (hheader : (Entries.field entries Field.header).DescribesHeader form.header)
      (hrows : (Entries.field entries Field.rows).DescribesRows form.rows) :
      DescribesSheet (.obj entries) form

/-- A workbook: a name and at least one sheet. -/
inductive DescribesWorkbook : Json → List SheetForm → Prop
  | obj {entries : Entries} {name : Text} {nodes : List Json} {forms : List SheetForm}
      (hname : Entries.field entries Field.name = .str name)
      (hsheets : Entries.field entries Field.sheets = .arr nodes) (hnonempty : nodes ≠ [])
      (h : List.Forall₂ DescribesSheet nodes forms) : DescribesWorkbook (.obj entries) forms

/-- A request: an object with a workbook. -/
inductive DescribesRequest : Json → List SheetForm → Prop
  | obj {entries : Entries} {workbook : Json} {forms : List SheetForm}
      (hworkbook : Entries.get? entries Field.workbook = some workbook)
      (h : workbook.DescribesWorkbook forms) : DescribesRequest (.obj entries) forms

/-! ### The grammar and the readers -/

theorem readStyleField_eq_ok_iff {path : Text} {entries : Entries} {style : Option Style} :
    readStyleField path entries = .ok style ↔ entries.Styled style := by
  unfold readStyleField
  constructor
  · intro hread
    cases hfield : entries.field? Field.style with
    | none =>
      rw [hfield] at hread
      obtain rfl := Except.ok.inj hread
      exact .absent hfield
    | some spec =>
      rw [hfield] at hread
      dsimp only at hread
      cases hspec : Style.read (fieldPath path Field.style) spec with
      | ok s =>
        rw [hspec] at hread
        obtain rfl := Except.ok.inj hread
        exact .present hfield (Style.read_eq_ok_iff.mp hspec)
      | error e =>
        rw [hspec] at hread
        cases hread
  · intro hstyled
    cases hstyled with
    | absent h => rw [h]
    | present h hs =>
      rw [h]
      dsimp only
      rw [Style.read_eq_ok_iff.mpr hs]

theorem describesHeader_iff (path : Text) {node : Json} {plan : HeaderPlan} :
    node.DescribesHeader plan ↔ HeaderPlan.read path node = .ok plan ∧ plan.draft.Writable := by
  rw [HeaderPlan.writable_draft_iff]
  constructor
  · -- the fields that the grammar names are those that the reader looks up
    rintro ⟨hcolumns, hlabels, hstyle⟩
    refine ⟨?_, hlabels⟩
    simp only [HeaderPlan.read, hcolumns, readStyleField_eq_ok_iff.mpr hstyle]
  · -- the reader gets through on an object with an array of columns and a good style only
    rintro ⟨hread, hlabels⟩
    cases node with
    | null | bool | int | float | str | arr => cases hread
    | obj entries =>
      cases hcolumns : Entries.field entries Field.columns with
      | null | bool | int | float | str | obj => simp [HeaderPlan.read, hcolumns] at hread
      | arr labels =>
        cases hstyle : readStyleField path entries with
        | error e => simp [HeaderPlan.read, hcolumns, hstyle] at hread
        | ok style =>
          simp only [HeaderPlan.read, hcolumns, hstyle, Except.ok.injEq] at hread
          obtain rfl := hread
          exact .obj hcolumns hlabels (readStyleField_eq_ok_iff.mp hstyle)

theorem describesRow_iff (path : Text) {node : Json} {plan : RowPlan} :
    node.DescribesRow plan ↔ RowPlan.read path node = .ok plan ∧ plan.draft.Writable := by
  rw [RowPlan.writable_draft_iff]
  constructor
  · rintro ⟨hstyle, hvalues⟩
    refine ⟨?_, hvalues⟩
    simp only [RowPlan.read, readStyleField_eq_ok_iff.mpr hstyle]
    rfl
  · rintro ⟨hread, hvalues⟩
    cases node with
    | null | bool | int | float | str | arr => cases hread
    | obj entries =>
      cases hstyle : readStyleField path entries with
      | error e => simp [RowPlan.read, hstyle] at hread
      | ok style =>
        simp only [RowPlan.read, hstyle, Except.ok.injEq] at hread
        obtain rfl := hread
        exact .obj (readStyleField_eq_ok_iff.mp hstyle) hvalues

theorem describesSheet_iff (path : Text) {node : Json} {form : SheetForm} :
    node.DescribesSheet form ↔ ∃ plan, SheetPlan.read path node = .ok plan ∧
      plan.name = form.name ∧ (∀ c ∈ form.name.toList, Title.isInvalidChar c = false) ∧
        plan.header.DescribesHeader form.header ∧ plan.rows.DescribesRows form.rows := by
  constructor
  · -- header and rows are read later, so the plan holds their nodes as they are
    rintro @⟨entries, _, hname, hnonempty, hvalid, hheader, hrows⟩
    refine ⟨⟨form.name, Entries.field entries Field.header, Entries.field entries Field.rows⟩, ?_,
      rfl, hvalid, hheader, hrows⟩
    have hempty : form.name.isEmpty = false := by simpa [← Bool.not_eq_true] using hnonempty
    simp [SheetPlan.read, hname, hempty]
  · rintro ⟨plan, hread, hname, hvalid, hheader, hrows⟩
    cases node with
    | null | bool | int | float | str | arr => cases hread
    | obj entries =>
      cases hfield : Entries.field entries Field.name with
      | null | bool | int | float | arr | obj => simp [SheetPlan.read, hfield] at hread
      | str name =>
        by_cases hempty : name.isEmpty = true
        · simp [SheetPlan.read, hfield, hempty] at hread
        · simp only [SheetPlan.read, hfield, hempty] at hread
          obtain rfl := Except.ok.inj hread
          obtain rfl : name = form.name := hname
          exact .obj hfield (mt Text.isEmpty_iff.mpr hempty) hvalid hheader hrows

/-- A workbook is read exactly if it has a name and a list of sheets that is not empty. -/
theorem readSheets_eq_ok_iff {node : Json} {nodes : List Json} :
    readSheets node = .ok nodes ↔ ∃ entries name, node = .obj entries ∧
      Entries.field entries Field.name = .str name ∧
      Entries.field entries Field.sheets = .arr nodes ∧ nodes ≠ [] := by
  constructor
  · intro h
    cases node with
    | null | bool | int | float | str | arr => cases h
    | obj entries =>
      rw [readSheets] at h
      split at h
      · next name hname =>
        split at h
        · next first rest hsheets =>
          obtain rfl := Except.ok.inj h
          exact ⟨entries, name, rfl, hname, hsheets, List.cons_ne_nil first rest⟩
        · cases h
      · cases h
  · rintro ⟨entries, name, rfl, hname, hsheets, hnonempty⟩
    obtain ⟨first, rest, rfl⟩ := List.exists_cons_of_ne_nil hnonempty
    rw [readSheets, hname, hsheets]

theorem describesWorkbook_iff {node : Json} {forms : List SheetForm} :
    node.DescribesWorkbook forms ↔
      ∃ nodes, readSheets node = .ok nodes ∧ List.Forall₂ DescribesSheet nodes forms := by
  constructor
  · rintro @⟨entries, name, nodes, _, hname, hsheets, hnonempty, h⟩
    exact ⟨nodes, readSheets_eq_ok_iff.mpr ⟨entries, name, rfl, hname, hsheets, hnonempty⟩, h⟩
  · rintro ⟨nodes, hread, h⟩
    obtain ⟨entries, name, rfl, hname, hsheets, hnonempty⟩ := readSheets_eq_ok_iff.mp hread
    exact .obj hname hsheets hnonempty h

/-- A workbook has at least one sheet. -/
theorem DescribesWorkbook.ne_nil {node : Json} {forms : List SheetForm}
    (h : node.DescribesWorkbook forms) : forms ≠ [] := by
  rintro rfl
  obtain ⟨-, -, hnonempty, h⟩ := h
  cases h
  exact hnonempty rfl

/-! ### One description at most -/

theorem DescribesHeader.unique {node : Json} {plan plan' : HeaderPlan}
    (h : node.DescribesHeader plan) (h' : node.DescribesHeader plan') : plan = plan' :=
  Except.ok.inj (((describesHeader_iff "").mp h).1.symm.trans ((describesHeader_iff "").mp h').1)

theorem DescribesRow.unique {node : Json} {plan plan' : RowPlan}
    (h : node.DescribesRow plan) (h' : node.DescribesRow plan') : plan = plan' :=
  Except.ok.inj (((describesRow_iff "").mp h).1.symm.trans ((describesRow_iff "").mp h').1)

theorem DescribesRows.unique {node : Json} {plans plans' : List RowPlan}
    (h : node.DescribesRows plans) (h' : node.DescribesRows plans') : plans = plans' := by
  cases h with
  | null =>
    cases h'
    rfl
  | arr h =>
    cases h' with
    | arr h' =>
      have hunique : Relator.RightUnique DescribesRow := fun _ _ _ => DescribesRow.unique
      exact hunique.forall₂ h h'

theorem DescribesSheet.unique {node : Json} {form form' : SheetForm}
    (h : node.DescribesSheet form) (h' : node.DescribesSheet form') : form = form' := by
  obtain ⟨plan, hread, hname, -, hheader, hrows⟩ := (describesSheet_iff "").mp h
  obtain ⟨plan', hread', hname', -, hheader', hrows'⟩ := (describesSheet_iff "").mp h'
  obtain rfl := Except.ok.inj (hread.symm.trans hread')
  obtain ⟨name, header, rows⟩ := form
  obtain ⟨name', header', rows'⟩ := form'
  obtain rfl : name = name' := hname.symm.trans hname'
  obtain rfl : header = header' := hheader.unique hheader'
  obtain rfl : rows = rows' := hrows.unique hrows'
  rfl

theorem describesSheets_unique {nodes : List Json} {forms forms' : List SheetForm}
    (h : List.Forall₂ DescribesSheet nodes forms) (h' : List.Forall₂ DescribesSheet nodes forms') :
    forms = forms' :=
  have hunique : Relator.RightUnique DescribesSheet := fun _ _ _ => DescribesSheet.unique
  hunique.forall₂ h h'

theorem DescribesWorkbook.unique {node : Json} {forms forms' : List SheetForm}
    (h : node.DescribesWorkbook forms) (h' : node.DescribesWorkbook forms') : forms = forms' := by
  obtain ⟨nodes, hread, h⟩ := describesWorkbook_iff.mp h
  obtain ⟨nodes', hread', h'⟩ := describesWorkbook_iff.mp h'
  obtain rfl := Except.ok.inj (hread.symm.trans hread')
  exact describesSheets_unique h h'

/-- **A request describes one series of sheets at most.** -/
theorem DescribesRequest.unique {request : Json} {forms forms' : List SheetForm}
    (h : request.DescribesRequest forms) (h' : request.DescribesRequest forms') :
    forms = forms' := by
  obtain ⟨hworkbook, h⟩ := h
  obtain ⟨hworkbook', h'⟩ := h'
  obtain rfl := Option.some.inj (hworkbook.symm.trans hworkbook')
  exact h.unique h'

end Json

end Gridwork
