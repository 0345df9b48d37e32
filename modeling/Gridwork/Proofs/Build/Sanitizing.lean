import Gridwork.Proofs.Build.Run
import Gridwork.Proofs.Build.Wording
import Gridwork.Proofs.Formula.Partly

/-!
# Building does not see whether formulas are clean

Sanitizing rewrites expressions, and building reads no field of that name. So a request and its
sanitized copy are read field by field from nodes that have been sanitized or left alone
(`Json.MaybeSanitized`), down to the values. A value is written if it is a text, a number or a truth
value, and these are the same in both; of an array or object only the kind counts. The columns of a
data row have names of the caller's choice, so a data row that is a formula itself would have its
expression written. If there is none, `buildWorkbook_sanitizeFormulas` says that both come out the
same.

They may differ in the wording of one error: an alignment that is no word is shown as it was
written, with the expressions in it (`Style.readWord_maybeSanitized`).
-/

namespace Gridwork

open Json

/-! ### Styles -/

namespace Style

variable {v w : Json} {a b : Entries}

/-- A word. What is no text is refused, whatever it is. -/
theorem readWord_maybeSanitized {α : Type} (words : List (Text × α)) (path : Text)
    (h : MaybeSanitized v w) :
    ReadUpTo StyleError.SameField Eq (readWord words path v) (readWord words path w) := by
  cases h.layer with
  | same => exact .refl StyleError.SameField.refl _
  | arr _ => exact .error rfl
  | obj _ => exact .error rfl

theorem readAlignment_maybeSanitized (path : Text) (h : MaybeSanitized v w) :
    ReadUpTo StyleError.SameField Eq (readAlignment path v) (readAlignment path w) := by
  cases h.layer with
  | same => exact .refl StyleError.SameField.refl _
  | arr _ => exact .error rfl
  | @obj a b hentries =>
    have hhorizontal := hentries.get?_getD (k := Field.horizontal) (by decide)
    have hvertical := hentries.get?_getD (k := Field.vertical) (by decide)
    exact (readWord_maybeSanitized _ _ hhorizontal).bind fun _ =>
      (readWord_maybeSanitized _ _ hvertical).bind fun _ => .ok rfl

theorem readChannel_maybeSanitized (h : Entries.MaybeSanitized a b) {channel : Text}
    (hchannel : channel ≠ Formula.expressionKey) (path : Text) :
    readChannel a channel path = readChannel b channel path := by
  have hget := h.get? hchannel
  unfold readChannel
  generalize a.get? channel = x at hget
  generalize b.get? channel = y at hget
  cases hget with
  | none => rfl
  | some hvalue =>
    cases hvalue.layer with
    | same | arr | obj => rfl

theorem readColor_maybeSanitized (path : Text) (h : MaybeSanitized v w) :
    readColor path v = readColor path w := by
  cases h.layer with
  | same => rfl
  | arr => rfl
  | obj hentries =>
    have hchannel := @readChannel_maybeSanitized _ _ hentries
    dsimp only [readColor]
    rw [hchannel (by decide), hchannel (by decide), hchannel (by decide)]

theorem readFlag_maybeSanitized (path name : Text) (h : MaybeSanitized v w) :
    readFlag path name v = readFlag path name w := by
  cases h.layer with
  | same | arr | obj => rfl

theorem readBorders_maybeSanitized (h : Entries.MaybeSanitized a b) (path : Text) :
    readBorders a path = readBorders b path := by
  -- no border flag is spelt like the key of an expression
  have hnames : ∀ names ∈ borderNames, Formula.expressionKey ∉ Field.spellings names.1 ∧
      names.2 ≠ Formula.expressionKey := by decide
  refine readBorders_of_flags fun names hmem => ?_
  obtain ⟨hfull, hshort⟩ := hnames names hmem
  have hflag := readFlag_maybeSanitized path names.1 (h.field names.1 hfull)
  have hother := readFlag_maybeSanitized path names.2 (h.get?_getD hshort)
  rw [readBorderFlag, readBorderFlag, hflag, hother]

/-- **A style is read the same** but for the wording of a faulty alignment. -/
theorem read_maybeSanitized (path : Text) (h : MaybeSanitized v w) :
    ReadUpTo StyleError.SameField Eq (read path v) (read path w) := by
  cases h.layer with
  | same => exact .refl StyleError.SameField.refl _
  | arr _ => exact .error rfl
  | @obj a b hentries =>
    have hcolor : ∀ name ∈ [Field.textColor, Field.fillColor], ∀ path,
        readColor path (Entries.field a name) = readColor path (Entries.field b name) := by
      have hnames : ∀ name ∈ [Field.textColor, Field.fillColor],
          Formula.expressionKey ∉ Field.spellings name := by decide
      intro name hname path
      exact readColor_maybeSanitized path (hentries.field name (hnames name hname))
    have hflag : ∀ name ∈ [Field.bold, Field.italic, Field.underline], ∀ path,
        readFlag path name (Entries.field a name) = readFlag path name (Entries.field b name) := by
      have hnames : ∀ name ∈ [Field.bold, Field.italic, Field.underline],
          Formula.expressionKey ∉ Field.spellings name := by decide
      intro name hname path
      exact readFlag_maybeSanitized path name (hentries.field name (hnames name hname))
    simp only [List.forall_mem_cons] at hcolor hflag
    obtain ⟨htext, hfill, -⟩ := hcolor
    obtain ⟨hbold, hitalic, hunderline, -⟩ := hflag
    dsimp only [read]
    -- only the alignment may be refused with another wording, and it is read first
    have halignment := hentries.field Field.alignment (by decide)
    refine (readAlignment_maybeSanitized _ halignment).bind fun alignment => ?_
    rw [htext, hfill, hbold, hitalic, hunderline, readBorders_maybeSanitized hentries]
    exact .refl StyleError.SameField.refl _

end Style

theorem readStyleField_maybeSanitized {a b : Entries} (h : Entries.MaybeSanitized a b)
    (path : Text) :
    ReadUpTo BuildError.SameFault Eq (readStyleField path a) (readStyleField path b) := by
  have hstyle := h.field? Field.style (by decide)
  unfold readStyleField
  generalize a.field? Field.style = x at hstyle
  generalize b.field? Field.style = y at hstyle
  cases hstyle with
  | none => exact .ok rfl
  | @some v w hvalue =>
    have hread := Style.read_maybeSanitized (fieldPath path Field.style) hvalue
    dsimp only
    generalize Style.read (fieldPath path Field.style) v = r at hread
    generalize Style.read (fieldPath path Field.style) w = r' at hread
    cases hread with
    | ok heq =>
      obtain rfl := heq
      exact .ok rfl
    | error he => exact .error (Failure.sameFault_style he)

/-! ### Reading plans -/

/-- Two plans for a header whose labels have been sanitized or left alone. -/
structure HeaderPlan.Alike (p q : HeaderPlan) : Prop where
  style : p.style = q.style
  columns : List.Forall₂ MaybeSanitized p.columns q.columns

/-- Two plans for a data row whose values have been sanitized or left alone. -/
structure RowPlan.Alike (p q : RowPlan) : Prop where
  style : p.style = q.style
  columns : List.Forall₂ (fun c c' => c.1 = c'.1 ∧ MaybeSanitized c.2 c'.2) p.columns q.columns

/-- Two plans for a sheet whose header and rows have been sanitized or left alone. No row is a
formula. -/
structure SheetPlan.Alike (p q : SheetPlan) : Prop where
  name : p.name = q.name
  header : MaybeSanitized p.header q.header
  rows : MaybeSanitized p.rows q.rows
  noFormula : ∀ row ∈ p.rows.items, row.isFormula = false

section Plans

variable {v w : Json}

theorem HeaderPlan.read_maybeSanitized (path : Text) (h : MaybeSanitized v w) :
    ReadUpTo BuildError.SameFault HeaderPlan.Alike (read path v) (read path w) := by
  cases h.layer with
  | same =>
    cases read path v with
    | ok plan => exact .ok ⟨rfl, List.forall₂_same.mpr fun label _ => .same label⟩
    | error e => exact .error (.refl e)
  | arr _ => exact .error (.refl _)
  | @obj a b hentries =>
    have hcolumns := (hentries.field Field.columns (by decide)).layer
    have hstyle := readStyleField_maybeSanitized hentries path
    dsimp only [read]
    generalize Entries.field a Field.columns = x at hcolumns
    generalize Entries.field b Field.columns = y at hcolumns
    generalize readStyleField path a = r at hstyle
    generalize readStyleField path b = r' at hstyle
    -- the columns are looked at first, and only with an array of them the style is read
    cases hcolumns with
    | same =>
      cases x with
      | arr labels =>
        cases hstyle with
        | ok heq => exact .ok ⟨by rw [heq], List.forall₂_same.mpr fun label _ => .same label⟩
        | error he => exact .error he
      | null | bool | int | float | str | obj => exact .error (.refl _)
    | arr hlabels =>
      cases hstyle with
      | ok heq => exact .ok ⟨by rw [heq], hlabels⟩
      | error he => exact .error he
    | obj _ => exact .error (.refl _)

/-- A data row that is no formula has columns that are all related. -/
theorem RowPlan.read_maybeSanitized (path : Text) (h : MaybeSanitized v w)
    (hformula : v.isFormula = false) :
    ReadUpTo BuildError.SameFault RowPlan.Alike (read path v) (read path w) := by
  cases h.layer with
  | same =>
    cases read path v with
    | ok plan => exact .ok ⟨rfl, List.forall₂_same.mpr fun column _ => ⟨rfl, .same column.2⟩⟩
    | error e => exact .error (.refl e)
  | arr _ => exact .error (.refl _)
  | @obj a b hentries =>
    have hcolumns := h.of_not_formula hformula
    have hstyle := readStyleField_maybeSanitized hentries path
    dsimp only [read]
    generalize readStyleField path a = r at hstyle
    generalize readStyleField path b = r' at hstyle
    cases hstyle with
    | error he => exact .error he
    | ok heq =>
      -- the style is told by its key, which is the same in both
      refine .ok ⟨heq, List.rel_filter (fun entry entry' hentry => ?_) hcolumns⟩
      change (!Field.isStyle entry.1) = true ↔ (!Field.isStyle entry'.1) = true
      rw [hentry.1]

theorem SheetPlan.read_maybeSanitized (path : Text) (h : MaybeSanitized v w)
    (hrows : ∀ row ∈ v.rowNodes, row.isFormula = false) :
    ReadAlike SheetPlan.Alike (read path v) (read path w) := by
  cases h.layer with
  | same =>
    cases hplan : read path v with
    | error e => exact .error e
    | ok plan =>
      rw [Build.rowNodes_of_read hplan] at hrows
      exact .ok ⟨rfl, .same _, .same _, hrows⟩
  | arr _ => exact .error _
  | @obj a b hentries =>
    have hname := (hentries.field Field.name (by decide)).layer
    have hheader := hentries.field Field.header (by decide)
    have hnodes := hentries.field Field.rows (by decide)
    dsimp only [read]
    generalize Entries.field a Field.name = x at hname
    generalize Entries.field b Field.name = y at hname
    -- nothing but a text is a name, and texts are the same
    cases hname with
    | same =>
      cases x with
      | str name =>
        dsimp only
        split
        · exact .error _
        · exact .ok ⟨rfl, hheader, hnodes, hrows⟩
      | null | bool | int | float | arr | obj => exact .error _
    | arr _ => exact .error _
    | obj _ => exact .error _

theorem readSheets_maybeSanitized (h : MaybeSanitized v w) :
    ReadAlike (List.Forall₂ MaybeSanitized) (readSheets v) (readSheets w) := by
  have hrefl : ∀ nodes : List Json, List.Forall₂ MaybeSanitized nodes nodes :=
    fun nodes => List.forall₂_same.mpr fun sheet _ => .same sheet
  cases h.layer with
  | same => exact .refl hrefl _
  | arr _ => exact .error _
  | @obj a b hentries =>
    have hname := (hentries.field Field.name (by decide)).layer
    have hsheets := (hentries.field Field.sheets (by decide)).layer
    dsimp only [readSheets]
    generalize Entries.field a Field.name = x at hname
    generalize Entries.field b Field.name = y at hname
    generalize Entries.field a Field.sheets = s at hsheets
    generalize Entries.field b Field.sheets = t at hsheets
    cases hname with
    | same =>
      cases x with
      | str name =>
        cases hsheets with
        | same => exact .refl hrefl _
        | arr hnodes =>
          -- there are no sheets in both workbooks or in neither
          cases hnodes with
          | nil => exact .error _
          | cons hfirst hrest => exact .ok (.cons hfirst hrest)
        | obj _ => exact .error _
      | null | bool | int | float | arr | obj => exact .error _
    | arr _ => exact .error _
    | obj _ => exact .error _

end Plans

namespace Build

variable {v w : Json}

/-! ### Rows -/

theorem writeLabel_maybeSanitized (row : Int) (style : Style) (path : Text) (i : Nat)
    (h : MaybeSanitized v w) : writeLabel row style path i v = writeLabel row style path i w := by
  cases h.layer with
  | same | arr | obj => rfl

/-- **A value is written the same**: nothing within an array or object is written. -/
theorem writeValue_maybeSanitized (row : Int) (column : Nat) (style : Option Style) (key : Text)
    (h : MaybeSanitized v w) :
    writeValue row column style key v = writeValue row column style key w := by
  cases h.layer with
  | same | arr | obj => rfl

theorem writeHeader_maybeSanitized (path : Text) (h : MaybeSanitized v w) :
    SameButWording (writeHeader path v) (writeHeader path w) := by
  refine SameButWording.of_read (HeaderPlan.read_maybeSanitized path h) fun p q hplans => ?_
  refine (SameButWording.refl _).bind fun row => ?_
  rw [hplans.style]
  refine SameButWording.forEach (hplans.columns.imp fun label label' hlabel i => ?_) 0
  rw [writeLabel_maybeSanitized row q.style _ i hlabel]
  exact .refl _

theorem writeRow_maybeSanitized (path : Text) (h : MaybeSanitized v w)
    (hformula : v.isFormula = false) : SameButWording (writeRow path v) (writeRow path w) := by
  have hread := RowPlan.read_maybeSanitized path h hformula
  refine SameButWording.of_read hread fun p q hplans => ?_
  refine (SameButWording.refl _).bind fun row => ?_
  rw [hplans.style]
  refine SameButWording.forEach (hplans.columns.imp fun c c' hcolumn i => ?_) 0
  obtain ⟨hkey, hvalue⟩ := hcolumn
  rw [writeColumn, writeColumn, hkey, writeValue_maybeSanitized row (i + 1) q.style c'.1 hvalue]
  exact .refl _

/-! ### Sheets -/

theorem writeSheetHeader_maybeSanitized {p q : SheetPlan} (h : p.Alike q) (path : Text) :
    SameButWording (writeSheetHeader path p) (writeSheetHeader path q) := by
  have hheader := h.header
  unfold writeSheetHeader
  rw [h.name]
  generalize p.header = v at hheader
  generalize q.header = w at hheader
  -- a header is missing in both or in neither
  cases hheader.layer with
  | same => exact .refl _
  | arr _ => exact writeHeader_maybeSanitized _ hheader
  | obj _ => exact writeHeader_maybeSanitized _ hheader

theorem writeSheetRows_maybeSanitized {p q : SheetPlan} (h : p.Alike q) (path : Text) :
    SameButWording (writeSheetRows path p) (writeSheetRows path q) := by
  have hrows := h.rows
  have hnoFormula := h.noFormula
  unfold writeSheetRows
  generalize p.rows = v at hrows hnoFormula
  generalize q.rows = w at hrows
  cases hrows.layer with
  | same => exact .refl _
  | arr hitems =>
    refine SameButWording.forEach ((forall₂_mem hitems).imp fun row row' hrow i => ?_) 0
    exact writeRow_maybeSanitized _ hrow.2 (hnoFormula row hrow.1)
  | obj _ => exact .refl _

theorem buildSheetAt_maybeSanitized (path : Text) (i : Nat) (h : MaybeSanitized v w)
    (hrows : ∀ row ∈ v.rowNodes, row.isFormula = false) :
    SameButWording (buildSheetAt path i v) (buildSheetAt path i w) := by
  have hread := SheetPlan.read_maybeSanitized (joinIndex path i) h hrows
  unfold buildSheetAt buildSheet
  generalize SheetPlan.read (joinIndex path i) v = x at hread
  generalize SheetPlan.read (joinIndex path i) w = y at hread
  cases hread with
  | error e => exact .refl _
  | @ok p q hplans =>
    have hfill : SameButWording (writeSheet (joinIndex path i) p)
        (writeSheet (joinIndex path i) q) := by
      rw [writeSheet, writeSheet, hplans.name]
      exact (writeSheetHeader_maybeSanitized hplans _).bind fun _ =>
        (writeSheetRows_maybeSanitized hplans _).bind fun _ => .refl _
    -- the plans themselves differ, but they are handed to nobody
    simp only [ofExcept, pure_bind, bind_assoc]
    rw [hplans.name]
    refine (SameButWording.refl _).bind fun title => ?_
    exact (hfill.withNewSheet (.empty title 1)).bind fun _ => .refl _

/-! ### Workbooks and requests -/

theorem buildWorkbookNode_maybeSanitized (h : MaybeSanitized v w)
    (hrows : ∀ sheet ∈ v.sheetNodes, ∀ row ∈ sheet.rowNodes, row.isFormula = false) :
    SameButWording (buildWorkbookNode v) (buildWorkbookNode w) := by
  have hread := readSheets_maybeSanitized h
  unfold buildWorkbookNode
  cases hv : readSheets v with
  | error e =>
    rw [hv] at hread
    generalize readSheets w = r at hread
    cases hread with
    | error => exact .refl _
  | ok nodes =>
    rw [sheetNodes_of_read hv] at hrows
    rw [hv] at hread
    generalize readSheets w = r at hread
    cases hread with
    | ok hnodes =>
      simp only [ofExcept, pure_bind]
      refine SameButWording.forEach ((forall₂_mem hnodes).imp fun sheet sheet' hsheet i => ?_) 0
      exact buildSheetAt_maybeSanitized _ i hsheet.2 (hrows sheet hsheet.1)

theorem buildRequest_maybeSanitized (h : MaybeSanitized v w) (hw : v.WellFormed)
    (hrows : ∀ sheet ∈ v.sheets, ∀ row ∈ sheet.rowNodes, row.isFormula = false) :
    SameButWording (buildRequest v) (buildRequest w) := by
  cases h.layer with
  | same => exact .refl _
  | arr _ => exact .refl _
  | @obj a b hentries =>
    have hdistinct := ((wellFormed_obj_iff a).mp hw).1
    -- keys are passed over alike, and the workbook is not the expression of a formula
    have hentry : ∀ entry entry' : Text × Json, (entry ∈ a ∧ entry.1 = entry'.1 ∧
        (entry.1 ≠ Formula.expressionKey → MaybeSanitized entry.2 entry'.2)) →
          SameButWording (buildEntry entry) (buildEntry entry') := by
      rintro ⟨key, node⟩ ⟨key', node'⟩ ⟨hmem, hkey, hvalue⟩
      obtain rfl : key = key' := hkey
      unfold buildEntry
      by_cases hworkbook : key = Field.workbook
      · subst hworkbook
        rw [if_pos rfl, if_pos rfl]
        have hpart := part_workbook ((Entries.get?_eq_some_iff hdistinct).mpr hmem)
        have hne : Field.workbook ≠ Formula.expressionKey := by decide
        refine buildWorkbookNode_maybeSanitized (hvalue hne) ?_
        rw [sheets, hpart] at hrows
        exact hrows
      · rw [if_neg hworkbook, if_neg hworkbook]
        exact .refl _
    refine SameButWording.bind ?_ fun _ => .refl _
    exact SameButWording.forEach
      ((forall₂_mem hentries).imp fun entry entry' he _ => hentry entry entry' he) 0

end Build

/-- **Sanitizing is not noticed by building.** If no data row is a formula, a request and its
sanitized copy are built into the same workbook, or refused with the same fault, and report the
same. -/
theorem buildWorkbook_sanitizeFormulas {request : Json} (hw : request.WellFormed)
    (hrows : ∀ sheet ∈ request.sheets, ∀ row ∈ sheet.rowNodes, row.isFormula = false) :
    BuiltAlike (buildWorkbook request) (buildWorkbook request.sanitizeFormulas) :=
  builtAlike_of_sameButWording
    (Build.buildRequest_maybeSanitized (.sanitized request) hw hrows)

/-- A formula that is not clean. -/
def uncleanFormula : Json := .obj [("type", .str "formula"), ("expression", .str "=A1!B")]

/-- A request with formulas for a value and for an alignment, which is no word. -/
def formulaRequest : Json :=
  .obj [("workbook", .obj [("name", .str "q"), ("sheets", .arr [.obj [("name", .str "a"),
    ("header", .obj [("columns", .arr [.str "x"])]),
    ("rows", .arr [.obj [("x", uncleanFormula)],
      .obj [("style", .obj [("alignment", .obj [("vertical", uncleanFormula)])])]])]])])]

theorem buildWorkbook_sanitizeFormulas_unclean : formulaRequest.WellFormed ∧
    (∀ sheet ∈ formulaRequest.sheets, ∀ row ∈ sheet.rowNodes, row.isFormula = false) ∧
      formulaRequest.sanitizeFormulas ≠ formulaRequest ∧
        BuiltAlike (buildWorkbook formulaRequest)
          (buildWorkbook formulaRequest.sanitizeFormulas) := by
  have hwell : formulaRequest.WellFormed := by decide
  have hrows : ∀ sheet ∈ formulaRequest.sheets, ∀ row ∈ sheet.rowNodes, row.isFormula = false := by
    decide
  have hchanged : formulaRequest.sanitizeFormulas ≠ formulaRequest := by decide
  exact ⟨hwell, hrows, hchanged, buildWorkbook_sanitizeFormulas hwell hrows⟩

end Gridwork
