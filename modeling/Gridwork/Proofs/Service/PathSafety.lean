import Gridwork.Proofs.Build.Contents
import Gridwork.Proofs.Formula.Sanitizing
import Gridwork.Proofs.Number.Numeral
import Gridwork.Proofs.Service.Generation
import Gridwork.Proofs.Storage.Filename
import Gridwork.Proofs.Validation.Report
import Gridwork.Proofs.Workbook.Saving

/-!
# No path leaves the service

If the caller's data is scanned, no text of a generated workbook is path-like: no text cell, no
sheet title and not the file name (`generate_pathSafe`). Three different reasons meet here:

* **cells** hold texts of the cleaned request. Validation has looked at every one of them, wherever
  it stands (`Json.PathFree`), and cutting a text cannot make a path of it (`not_pathLike_fit`);
* **titles** are made of characters that a title may have, and digits;
* the **file name** is made of safe characters and the extension.

Titles and file names are safe even without the scan.
-/

namespace Gridwork

/-! ### Texts that are no paths -/

namespace Validation

/-- Every mark of a file path has a slash, a backslash or a colon. -/
theorem PathLike.exists_char {s : Text} (h : PathLike s) :
    ∃ c ∈ s.toList, c = .char '/' ∨ c = .char '\\' ∨ c = .char ':' := by
  obtain ⟨mark, hmark, hin⟩ := h
  simp only [pathMarks, List.mem_cons, List.not_mem_nil, or_false] at hmark
  rcases hmark with rfl | rfl | rfl
  · exact ⟨'/', hin.subset (by decide), Or.inl rfl⟩
  · exact ⟨'\\', hin.subset (by decide), Or.inr (Or.inl rfl)⟩
  · exact ⟨':', hin.subset (by decide), Or.inr (Or.inr rfl)⟩

/-- Cutting a text makes no path of it. -/
theorem not_pathLike_fit {s : Text} (h : ¬ PathLike s) : ¬ PathLike (Cell.fit s) := by
  rintro ⟨mark, hmark, hin⟩
  exact h ⟨mark, hmark, hin.trans (List.take_prefix _ _).isInfix⟩

end Validation

open Validation

/-- A title is no path: it has the characters of a sheet name, and digits. -/
theorem Title.not_pathLike_given {titles : List Text} {name : Text}
    (h : ∀ c ∈ name.toList, isInvalidChar c = false) : ¬ PathLike (given titles name) := by
  intro hpath
  obtain ⟨c, hc, hmark⟩ := hpath.exists_char
  -- the marks may not stand in a name, and no digit is one
  have hinvalid : isInvalidChar c = true := by
    rcases hmark with rfl | rfl | rfl <;> decide
  have hdigit : c.isDigit = false := by
    rcases hmark with rfl | rfl | rfl <;> decide
  have hname : c ∉ name.toList := fun hmem => by
    rw [h c hmem] at hinvalid
    cases hinvalid
  rcases given_eq_or titles name with hgiven | ⟨-, n, hgiven⟩
  · rw [hgiven] at hc
    exact hname hc
  · rw [hgiven, Text.toList_append, List.mem_append] at hc
    rcases hc with hc | hc
    · exact hname hc
    · rw [isDigit_of_mem_ofString_toString hc] at hdigit
      cases hdigit

/-- A file name is no path: it has safe characters only, and the point of the extension. -/
theorem Filename.not_pathLike_derive (request : Json) : ¬ PathLike (derive request) := by
  intro hpath
  obtain ⟨_, hmem, hmark⟩ := hpath.exists_char
  obtain ⟨c, hc, rfl⟩ := List.mem_map.mp hmem
  simp only [CodePoint.char.injEq] at hmark
  have hunsafe : isSafeChar c = false := by
    rcases hmark with rfl | rfl | rfl <;> decide
  have hextension : c ∉ extension.toList := by
    rcases hmark with rfl | rfl | rfl <;> decide
  rcases mem_derive hc with hsafe | hmem
  · rw [hsafe] at hunsafe
    cases hunsafe
  · exact hextension hmem

/-! ### Trees without paths -/

namespace Json

/-- No text at or below a node is path-like, as the scan finds out wherever the node stands. -/
def PathFree (v : Json) : Prop := ∃ place, pathViolations place v = [] ∧ scanBelow place v = []

theorem pathFree_null : null.PathFree := ⟨[], rfl, rfl⟩

theorem PathFree.not_pathLike {s : Text} (h : (str s).PathFree) : ¬ PathLike s := by
  obtain ⟨place, hhere, -⟩ := h
  intro hpath
  rw [pathViolations, if_pos ((containsPath_iff s).mpr hpath)] at hhere
  cases hhere

theorem PathFree.child {v : Json} (h : v.PathFree) {step : Step} {w : Json}
    (hc : (step, w) ∈ v.children) : w.PathFree := by
  obtain ⟨place, -, hbelow⟩ := h
  rw [scanBelow_eq_flatMap, List.flatMap_eq_nil_iff] at hbelow
  exact ⟨step :: place, List.append_eq_nil_iff.mp (hbelow (step, w) hc)⟩

theorem PathFree.entry {entries : Entries} (h : (obj entries).PathFree) {k : Text} {v : Json}
    (he : (k, v) ∈ entries) : v.PathFree :=
  h.child (mem_children_of_entry he)

theorem PathFree.item {items : List Json} (h : (arr items).PathFree) {v : Json} (hv : v ∈ items) :
    v.PathFree := by
  obtain ⟨i, hchild⟩ := exists_mem_children_of_item hv
  exact h.child hchild

theorem PathFree.get? {entries : Entries} (h : (obj entries).PathFree) {k : Text} {v : Json}
    (hv : entries.get? k = some v) : v.PathFree :=
  h.entry (mem_of_lookup hv)

/-- Under whichever spelling a field is found, its value is one of the entries. -/
theorem PathFree.field {entries : Entries} (h : (obj entries).PathFree) (name : Text) :
    (Entries.field entries name).PathFree := by
  unfold Entries.field Entries.field?
  cases hfind : (Field.spellings name).findSome? (Entries.get? entries) with
  | none => exact pathFree_null
  | some v =>
    obtain ⟨k, -, hk⟩ := List.exists_of_findSome?_eq_some hfind
    exact h.get? hk

/-- A valid request has no path anywhere, if the caller's data was scanned. -/
theorem pathFree_of_valid {v : Json} (h : violations true v = []) : v.PathFree := by
  obtain ⟨hwalk, hstructure⟩ := List.append_eq_nil_iff.mp h
  refine ⟨[], ?_, ?_⟩
  · cases v with
    | str s => cases hstructure
    | null | bool | int | float | arr | obj => rfl
  · -- with the scan, the walk reports at least what the scan alone reports
    rw [walk_eq_findings true (by simp), List.flatMap_eq_nil_iff] at hwalk
    rw [scanBelow_eq_descendants, List.flatMap_eq_nil_iff]
    intro node hnode
    have hfindings := (List.append_eq_nil_iff.mp (hwalk node hnode)).1
    rwa [pathFindings_of_scanned (Or.inr rfl)] at hfindings

end Json

/-! ### Forms without paths -/

/-- A form without paths: its name can be a title, and no value of it is or holds a path. -/
structure SheetForm.PathFree (form : SheetForm) : Prop where
  name : ∀ c ∈ form.name.toList, Title.isInvalidChar c = false
  values : ∀ row column v, form.value? row column = some v → v.PathFree

/-- A label is a member of the array of columns. -/
theorem Json.DescribesHeader.pathFree {node : Json} {plan : HeaderPlan}
    (h : node.DescribesHeader plan) (hfree : node.PathFree) : ∀ v ∈ plan.columns, v.PathFree := by
  cases h with
  | obj hcolumns _ _ =>
    have hlabels := hfree.field Field.columns
    rw [hcolumns] at hlabels
    exact fun v hv => hlabels.item hv

/-- A value is an entry of a data row. -/
theorem Json.DescribesRows.pathFree {node : Json} {plans : List RowPlan}
    (h : node.DescribesRows plans) (hfree : node.PathFree) :
    ∀ plan ∈ plans, ∀ entry ∈ plan.columns, entry.2.PathFree := by
  intro plan hplan entry hentry
  cases h with
  | null => cases hplan
  | arr hnodes =>
    obtain ⟨row, hmem, hrow⟩ := exists_mem_left_of_forall₂ hnodes hplan
    have hrowFree := hfree.item hmem
    cases hrow with
    | obj _ _ => exact hrowFree.entry (List.mem_of_mem_filter hentry)

theorem Json.DescribesSheet.pathFree {node : Json} {form : SheetForm}
    (h : node.DescribesSheet form) (hfree : node.PathFree) : form.PathFree := by
  obtain ⟨-, -, hvalid, hheader, hrows⟩ := h
  refine ⟨hvalid, fun row column v hv => ?_⟩
  rcases SheetForm.mem_of_value? hv with hv | ⟨plan, hplan, entry, hentry, rfl⟩
  · exact hheader.pathFree (hfree.field Field.header) v hv
  · exact hrows.pathFree (hfree.field Field.rows) plan hplan entry hentry

theorem Json.DescribesRequest.pathFree {request : Json} {forms : List SheetForm}
    (h : request.DescribesRequest forms) (hfree : request.PathFree) :
    ∀ form ∈ forms, form.PathFree := by
  obtain ⟨hget, hworkbook⟩ := h
  have hworkbookFree := hfree.get? hget
  obtain ⟨-, hsheets, -, hnodes⟩ := hworkbook
  have hsheetsFree := hworkbookFree.field Field.sheets
  rw [hsheets] at hsheetsFree
  intro form hform
  obtain ⟨node, hnode, hdescribes⟩ := exists_mem_left_of_forall₂ hnodes hform
  exact hdescribes.pathFree (hsheetsFree.item hnode)

/-- What a cell holds for a value without paths is no path. -/
theorem Json.PathFree.not_pathLike_content {v : Json} (h : v.PathFree) {s : Text}
    (hs : v.content = .text s) : ¬ PathLike s := by
  cases v with
  | null | bool | int | float => cases hs
  | str t =>
    obtain rfl := Content.text.inj hs
    exact not_pathLike_fit h.not_pathLike
  | arr | obj =>
    -- a nested value leaves an empty text
    obtain rfl := Content.text.inj hs
    decide

/-! ### The whole service -/

/-- **No path leaves the service.** With the scan on, nothing that a client reads of a generated
workbook is path-like. -/
theorem Service.generate_pathSafe {settings : Settings} {files : FileSystem FileContent}
    {request : Json} {persist : Option Bool} {g : Generated} (hw : request.WellFormed)
    (hscan : settings.scanBusinessData = true)
    (h : (generate settings files request persist).result = .ok g) :
    ¬ PathLike g.filename ∧
      ∀ sheet ∈ g.document.sheets, ¬ PathLike sheet.title ∧
        ∀ c ∈ sheet.cells, c.kind = .text → ∀ s, c.text = some s → ¬ PathLike s := by
  obtain ⟨hname, hprepared⟩ := generate_eq_ok h
  obtain ⟨hvalid, w, hbuilt, hsave⟩ := prepare_eq_ok hprepared
  obtain ⟨forms, hforms, -, rfl⟩ := eq_addForms_of_built hw.sanitizeFormulas hbuilt
  have hfree : ∀ form ∈ forms, form.PathFree := by
    rw [check, hscan] at hvalid
    exact hforms.pathFree (Json.pathFree_of_valid hvalid)
  rw [hname]
  refine ⟨Filename.not_pathLike_derive request, fun sheet hsheet => ?_⟩
  -- every saved sheet stems from a form
  obtain ⟨s, hs, hsaved⟩ := Workbook.exists_sheet_of_save hsave hsheet
  obtain ⟨form, hform, titles, rfl⟩ := Workbook.mem_sheets_addForms hs
  constructor
  · rw [Document.title_of_savedSheet hsaved, SheetForm.sheet_title]
    exact Title.not_pathLike_given (hfree form hform).name
  · -- and every saved text from a value of it
    intro c hc hkind text htext
    obtain ⟨cell, hcell, hsavedCell⟩ := Document.exists_cell_of_savedSheet hsaved hc
    have hcontent := Document.content_of_savedCell hsavedCell hkind htext
    obtain ⟨row, column, v, hv, rfl⟩ := SheetForm.mem_cells_sheet_iff.mp hcell
    exact ((hfree form hform).values row column v hv).not_pathLike_content hcontent

/-- A request with points and a repeated name, and a formula whose backslash is cleaned away. -/
def dottedRequest : Json :=
  .obj [("workbook", .obj [
    ("name", .str "Q1 report"),
    ("abas", .arr [
      .obj [("name", .str "Data"),
        ("header", .obj [("columns", .arr [.str "id", .str "sum"])]),
        ("rows", .arr [.obj [("id", .str "a..b"),
          ("sum", .obj [("type", .str "formula"), ("expression", .str "=A1\\B2")])]])],
      .obj [("nomeAba", .str "data"), ("header", .obj [("campos", .arr [])])]])])]

/-- The default settings with the scan of the caller's data. -/
def scanningSettings : Settings := { Settings.defaults with scanBusinessData := true }

theorem Service.generate_pathSafe_dotted : dottedRequest.WellFormed ∧
    scanningSettings.scanBusinessData = true ∧
    ∃ g, (generate scanningSettings .empty dottedRequest none).result = .ok g ∧
      (g.filename = "Q1_report.xlsx" ∧ g.sheetNames = ["Data", "data1"]) ∧
        ¬ PathLike g.filename ∧
          ∀ sheet ∈ g.document.sheets, ¬ PathLike sheet.title ∧
            ∀ c ∈ sheet.cells, c.kind = .text → ∀ s, c.text = some s → ¬ PathLike s := by
  have hwell : dottedRequest.WellFormed := by decide
  have hnames : (generate scanningSettings .empty dottedRequest none).result.toOption.map
      (fun g => (g.filename, g.sheetNames)) = 
        some ("Q1_report.xlsx", (["Data", "data1"] : List Text)) := by
    decide +kernel
  cases h : (generate scanningSettings .empty dottedRequest none).result with
  | error e =>
    rw [h] at hnames
    cases hnames
  | ok g =>
    rw [h] at hnames
    have hg := Prod.mk.inj (Option.some.inj hnames)
    exact ⟨hwell, rfl, g, rfl, hg, generate_pathSafe hwell rfl h⟩

end Gridwork
