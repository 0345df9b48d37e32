import Gridwork.Proofs.Build.Contents
import Gridwork.Proofs.Service.Generation
import Gridwork.Proofs.Validation.Sanitizing
import Gridwork.Proofs.Workbook.Saving

/-!
# The bound on rows

The bound is checked on the sheets of the cleaned request before anything is built. The check and
the builder read the same sheets and the same rows of them, and cleaning changes neither how many
sheets there are nor how many rows they have. So the bound decides by the sheets of the request as
it came (`Service.rowExcess_cases`): if they are all within it, all is as if there were none, and
otherwise the first one that is not is reported. `Service.rowBound_exact` puts this together.
-/

namespace Gridwork

/-! ### Arrays in cleaned requests -/

/-- An array stays an array when it is cleaned, and nothing else becomes one. -/
theorem Json.MaybeSanitized.arr_or {v w : Json} (h : v.MaybeSanitized w) :
    (∃ items items', v = .arr items ∧ w = .arr items' ∧ List.Forall₂ MaybeSanitized items items') ∨
      (∀ items, v ≠ .arr items) ∧ ∀ items, w ≠ .arr items := by
  cases h.layer with
  | same =>
    cases v with
    | arr items =>
      exact Or.inl ⟨items, items, rfl, rfl, List.forall₂_same.mpr fun item _ => .same item⟩
    | null | bool | int | float | str | obj => exact Or.inr ⟨nofun, nofun⟩
  | arr hitems => exact Or.inl ⟨_, _, rfl, rfl, hitems⟩
  | obj _ => exact Or.inr ⟨nofun, nofun⟩

/-- A text is not cleaned but as the expression of a formula. -/
theorem Json.MaybeSanitized.eq_of_str {s : Text} {w : Json} (h : (str s).MaybeSanitized w) :
    w = .str s := by
  cases h with
  | same => rfl
  | sanitized => rfl

namespace Service

/-! ### The sheets of a request -/

/-- The request is an object with a workbook, that is an object too, and its sheets are an array. -/
inductive HasSheets : Json → List Json → Prop
  | obj {root workbook : Json.Entries} {sheets : List Json}
      (hworkbook : root.get? Field.workbook = some (.obj workbook))
      (hsheets : Json.Entries.field workbook Field.sheets = .arr sheets) :
      HasSheets (.obj root) sheets

variable {settings : Settings} {request : Json} {sheets : List Json} {limit : Nat}

theorem HasSheets.sheetsOf_eq (h : HasSheets request sheets) : sheetsOf request = sheets := by
  obtain ⟨hworkbook, hsheets⟩ := h
  rw [sheetsOf, hworkbook]
  dsimp only
  rw [hsheets]

/-- Cleaning goes through the sheets one by one. -/
theorem HasSheets.of_maybeSanitized {v w : Json} (hv : HasSheets v sheets)
    (h : v.MaybeSanitized w) :
    ∃ cleaned, HasSheets w cleaned ∧ List.Forall₂ Json.MaybeSanitized sheets cleaned := by
  have hsame : List.Forall₂ Json.MaybeSanitized sheets sheets :=
    List.forall₂_same.mpr fun sheet _ => .same sheet
  obtain @⟨root, workbook, _, hworkbook, hsheets⟩ := hv
  cases h.layer with
  | same => exact ⟨sheets, .obj hworkbook hsheets, hsame⟩
  | obj hroot =>
    have hrel := hroot.get? (k := Field.workbook) (by decide)
    rw [hworkbook] at hrel
    -- the workbook, and in it the sheets
    generalize hget : Json.Entries.get? _ Field.workbook = found at hrel
    cases hrel with
    | some hbook =>
      cases hbook.layer with
      | same => exact ⟨sheets, .obj hget hsheets, hsame⟩
      | obj hentries =>
        have hfield := hentries.field Field.sheets (by decide)
        rw [hsheets] at hfield
        rcases hfield.arr_or with ⟨_, cleaned, harr, hcleaned, hmembers⟩ | ⟨hno, -⟩
        · obtain rfl := Json.arr.inj harr
          exact ⟨cleaned, .obj hget hcleaned, hmembers⟩
        · exact absurd rfl (hno sheets)

/-- A request that has been found in order has sheets to go through. -/
theorem exists_hasSheets (h : check settings request = []) :
    ∃ sheets, HasSheets request sheets := by
  have hstructure :=
    (Validation.structureViolations_eq_nil_iff _).mp (List.append_eq_nil_iff.mp h).2
  rw [Validation.hasStructure_sanitizeFormulas_iff] at hstructure
  obtain ⟨root, workbook, first, rest, _, _, rfl, hworkbook, -, hsheets, -⟩ := hstructure
  exact ⟨_, .obj hworkbook hsheets⟩

/-! ### Too many rows -/

/-- A node is within the bound unless it is an object with more rows. -/
def RowsWithin (limit : Nat) (sheet : Json) : Prop :=
  ∀ entries rows, sheet = .obj entries → Json.Entries.field entries Field.rows = .arr rows →
    rows.length ≤ limit

/-- The error of a sheet with more rows than the bound allows: it names the sheet, by its cleaned
name, and says how many rows it has. -/
inductive Exceeds (limit : Nat) : Json → BuildError → Prop
  | obj {entries : Json.Entries} {rows : List Json} {name : Json}
      (hrows : Json.Entries.field entries Field.rows = .arr rows) (hlong : limit < rows.length)
      (hname : (Json.Entries.field entries Field.name).MaybeSanitized name) :
      Exceeds limit (.obj entries) (.tooManyRows name rows.length limit)

theorem Exceeds.not_within {sheet : Json} {e : BuildError} (h : Exceeds limit sheet e) :
    ¬ RowsWithin limit sheet := by
  obtain ⟨hrows, hlong, -⟩ := h
  exact fun hwithin => Nat.not_le.mpr hlong (hwithin _ _ rfl hrows)

/-- The error says which sheet it is, where its name is a text, and how many rows it has. -/
def SaysWhich (limit : Nat) (sheet : Json) (e : BuildError) : Prop :=
  ∀ entries rows name, sheet = .obj entries → Json.Entries.field entries Field.rows = .arr rows →
    Json.Entries.field entries Field.name = .str name →
      e.message? = some ("Sheet \"" ++ name ++ "\" has " ++ toString rows.length
        ++ " rows; the limit is " ++ toString limit)

theorem Exceeds.saysWhich {sheet : Json} {e : BuildError} (h : Exceeds limit sheet e) :
    SaysWhich limit sheet e := by
  obtain @⟨_, rows, _, hrows, -, hname⟩ := h
  intro entries found name hentries hfound htext
  obtain rfl := Json.obj.inj hentries
  obtain rfl := Json.arr.inj (hrows.symm.trans hfound)
  -- a text is not cleaned
  rw [htext] at hname
  obtain rfl := hname.eq_of_str
  rfl

/-- The error has a wording, unless the cleaned name of the sheet has a number in it that is too
long to be written. -/
def WordedByName (sheet : Json) (e : BuildError) : Prop :=
  ∃ entries name, sheet = .obj entries ∧
    (Json.Entries.field entries Field.name).MaybeSanitized name ∧
      (e.isWorded = true ↔ name.isWritable = true)

theorem Exceeds.wordedByName {sheet : Json} {e : BuildError} (h : Exceeds limit sheet e) :
    WordedByName sheet e := by
  obtain @⟨entries, rows, name, -, -, hname⟩ := h
  refine ⟨entries, name, rfl, hname, ?_⟩
  rw [BuildError.isWorded, BuildError.message?, Option.isSome_map, Json.isSome_display?]

/-- Objects are within the bound or reported by the number of their rows. -/
theorem excess_cases_obj (limit : Nat) {entries cleaned : Json.Entries}
    (h : entries.MaybeSanitized cleaned) :
    (RowsWithin limit (.obj entries) ∧ excess? limit (.obj cleaned) = none) ∨
      ∃ e, Exceeds limit (.obj entries) e ∧ excess? limit (.obj cleaned) = some e := by
  have hname := h.field Field.name (by decide)
  have hfield := h.field Field.rows (by decide)
  rcases hfield.arr_or with ⟨rows, rows', hrows, hrows', hmembers⟩ | ⟨hno, hno'⟩
  · have hcount : rows'.length = rows.length := hmembers.length_eq.symm
    rw [excess?, hrows']
    dsimp only
    rw [hcount]
    by_cases hlong : limit < rows.length
    · exact Or.inr ⟨_, .obj hrows hlong hname, if_pos (Int.ofNat_lt.mpr hlong)⟩
    · refine Or.inl ⟨?_, if_neg (mt Int.ofNat_lt.mp hlong)⟩
      intro entries found hentries hfound
      obtain rfl := Json.obj.inj hentries
      obtain rfl := Json.arr.inj (hrows.symm.trans hfound)
      exact Nat.not_lt.mp hlong
  · -- there are no rows to count
    refine Or.inl ⟨?_, ?_⟩
    · intro entries found hentries hfound
      obtain rfl := Json.obj.inj hentries
      exact absurd hfound (hno found)
    · rw [excess?]
      split
      · next found hfound => exact absurd hfound (hno' found)
      · rfl

/-- A sheet is within the bound, or its cleaned copy is reported. -/
theorem excess_cases (limit : Nat) {v w : Json} (h : v.MaybeSanitized w) :
    (RowsWithin limit v ∧ excess? limit w = none) ∨
      ∃ e, Exceeds limit v e ∧ excess? limit w = some e := by
  cases h.layer with
  | same =>
    cases v with
    | obj entries => exact excess_cases_obj limit (.refl entries)
    | null | bool | int | float | str | arr => exact Or.inl ⟨nofun, rfl⟩
  | arr _ => exact Or.inl ⟨nofun, rfl⟩
  | obj hentries => exact excess_cases_obj limit hentries

/-- **What the bound decides by**: all sheets are within it, or the first one that is not is
reported. -/
theorem rowExcess_cases (limit : Nat) {cleaned : List Json}
    (h : List.Forall₂ Json.MaybeSanitized sheets cleaned) :
    ((∀ sheet ∈ sheets, RowsWithin limit sheet) ∧ cleaned.findSome? (excess? limit) = none) ∨
      ∃ before sheet behind e, sheets = before ++ sheet :: behind ∧
        (∀ s ∈ before, RowsWithin limit s) ∧ Exceeds limit sheet e ∧
          cleaned.findSome? (excess? limit) = some e := by
  -- on the sheets, up to the first one that is not within the bound
  induction h with
  | nil => exact Or.inl ⟨nofun, rfl⟩
  | @cons v w vs ws hvw _ ih =>
    rw [List.findSome?_cons]
    rcases excess_cases limit hvw with ⟨hwithin, hnone⟩ | ⟨e, hexceeds, hsome⟩
    · rw [hnone]
      rcases ih with ⟨hall, hrest⟩ | ⟨before, sheet, behind, e, rfl, hbefore, hexceeds, hrest⟩
      · exact Or.inl ⟨List.forall_mem_cons.mpr ⟨hwithin, hall⟩, hrest⟩
      · exact Or.inr ⟨v :: before, sheet, behind, e, rfl,
          List.forall_mem_cons.mpr ⟨hwithin, hbefore⟩, hexceeds, hrest⟩
    · rw [hsome]
      exact Or.inr ⟨[], v, vs, e, rfl, nofun, hexceeds, rfl⟩

/-! ### Generations with and without a bound -/

variable {files : FileSystem FileContent} {persist : Option Bool}

/-- The settings with a bound on rows, or with none. -/
def withBound (settings : Settings) (bound : Option Int) : Settings :=
  { settings with maxRowsPerSheet := bound }

theorem prepare_of_within {bound : Option Int}
    (h : rowExcess? bound request.sanitizeFormulas = none) :
    prepare (withBound settings bound) request = prepare (withBound settings none) request := by
  have hbound : rowExcess? (withBound settings bound).maxRowsPerSheet request.sanitizeFormulas
      = none := h
  have hnone : rowExcess? (withBound settings none).maxRowsPerSheet request.sanitizeFormulas
      = none := rfl
  unfold prepare
  dsimp only
  rw [hbound, hnone]
  rfl

theorem generate_of_within {bound : Option Int}
    (h : rowExcess? bound request.sanitizeFormulas = none) :
    generate (withBound settings bound) files request persist
      = generate (withBound settings none) files request persist := by
  -- whether and where a workbook is kept does not depend on the bound
  have hkeeps :
      keeps (withBound settings bound) persist = keeps (withBound settings none) persist := rfl
  have hkept : ∀ filename d events,
      deliverKept (withBound settings bound) files filename d events
        = deliverKept (withBound settings none) files filename d events := by
    intro filename d events
    unfold deliverKept
    rfl
  unfold generate
  dsimp only
  rw [prepare_of_within h, hkeeps]
  simp only [hkept]

theorem prepare_of_excess {e : BuildError} (hvalid : check settings request = [])
    (h : rowExcess? settings.maxRowsPerSheet request.sanitizeFormulas = some e) :
    prepare settings request = ⟨.error (.failure (.build e)), []⟩ := by
  have hfound : (violations settings.scanBusinessData request.sanitizeFormulas).isEmpty = true :=
    List.isEmpty_iff.mpr hvalid
  unfold prepare
  dsimp only
  rw [if_pos hfound, h]

theorem generate_of_excess {e : BuildError} (hvalid : check settings request = [])
    (h : rowExcess? settings.maxRowsPerSheet request.sanitizeFormulas = some e) :
    generate settings files request persist = ⟨.error (.failure (.build e)), files, []⟩ := by
  unfold generate
  rw [prepare_of_excess hvalid h]

/-! ### The cells of a workbook within the bound -/

/-- A value stands in the row of the header or in one of the data rows behind it. -/
theorem row_le_of_value? {form : SheetForm} {row column : Nat} {v : Json}
    (h : form.value? row column = some v) : row ≤ form.rows.length + 1 := by
  unfold SheetForm.value? at h
  split at h
  · exact Nat.le_add_left 1 _
  · obtain ⟨plan, hplan, -⟩ := Option.bind_eq_some_iff.mp h
    exact Nat.succ_le_succ (List.getElem?_eq_some_iff.mp hplan).1
  · cases h

/-- A sheet that is not reported describes as many data rows as the bound allows at most. -/
theorem length_rows_le {sheet : Json} {form : SheetForm} (hform : sheet.DescribesSheet form)
    (h : excess? limit sheet = none) : form.rows.length ≤ limit := by
  obtain ⟨-, -, -, -, hrows⟩ := hform
  rw [excess?] at h
  generalize Json.Entries.field _ Field.rows = node at hrows h
  generalize form.rows = plans at hrows ⊢
  cases hrows with
  | null => exact Nat.zero_le limit
  | arr hplans =>
    rw [← hplans.length_eq]
    by_contra hlong
    dsimp only at h
    rw [if_pos (Int.ofNat_lt.mpr (Nat.not_le.mp hlong))] at h
    cases h

/-- The sheets that a request describes are those that the bound is checked on. -/
theorem exists_hasSheets_of_describes {forms : List SheetForm}
    (h : request.DescribesRequest forms) :
    ∃ nodes, HasSheets request nodes ∧ List.Forall₂ Json.DescribesSheet nodes forms := by
  obtain ⟨hworkbook, hdescribes⟩ := h
  obtain ⟨-, hsheets, -, hmembers⟩ := hdescribes
  exact ⟨_, .obj hworkbook hsheets, hmembers⟩

/-- A workbook that is built within the bound has no cell in a row beyond it. -/
theorem row_le_of_built {w : Workbook} (hw : request.WellFormed)
    (hbound : rowExcess? (some (limit : Int)) request = none)
    (hbuilt : (buildWorkbook request).outcome = .ok w) :
    ∀ s ∈ w.sheets, ∀ c ∈ s.cells.toList, c.row ≤ limit + 1 := by
  obtain ⟨forms, hforms, -, rfl⟩ := eq_addForms_of_built hw hbuilt
  obtain ⟨nodes, hnodes, hmembers⟩ := exists_hasSheets_of_describes hforms
  rw [rowExcess?, Option.bind_some, hnodes.sheetsOf_eq, List.findSome?_eq_none_iff] at hbound
  intro s hs c hc
  -- a cell holds a value of the form that its sheet is made of
  obtain ⟨form, hform, titles, rfl⟩ := Workbook.mem_sheets_addForms hs
  obtain ⟨row, column, v, hv, rfl⟩ := SheetForm.mem_cells_sheet_iff.mp hc
  obtain ⟨node, hnode, hdescribes⟩ := exists_mem_left_of_forall₂ hmembers hform
  calc row ≤ form.rows.length + 1 := row_le_of_value? hv
    _ ≤ limit + 1 := Nat.succ_le_succ (length_rows_le hdescribes (hbound node hnode))

/-- Of a document that is made within the bound, the workbook has been built within it. -/
theorem exists_built_of_generate (hw : request.WellFormed) {g : Generated}
    (h : (generate (withBound settings (some limit)) files request persist).result = .ok g) :
    ∃ w, (buildWorkbook request.sanitizeFormulas).outcome = .ok w ∧ w.save = .ok g.document ∧
      ∀ s ∈ w.sheets, ∀ c ∈ s.cells.toList, c.row ≤ limit + 1 := by
  obtain ⟨-, hprepared⟩ := generate_eq_ok h
  obtain ⟨-, w, hbuilt, hsave⟩ := prepare_eq_ok hprepared
  have hends := prepare_cases (withBound settings (some limit)) request
  rw [hprepared] at hends
  cases hends with
  | saved _ hbound _ _ =>
    exact ⟨w, hbuilt, hsave, row_le_of_built hw.sanitizeFormulas hbound hbuilt⟩

/-! ### The result -/

/-- What a bound on rows does to a request with these sheets. -/
structure BoundsRows (settings : Settings) (limit : Nat) (request : Json) (sheets : List Json) :
    Prop where
  /-- The check finds an array to go through, the cleaned copy of the sheets, so that nothing but an
  excess can end it. -/
  found : ∃ cleaned, HasSheets request.sanitizeFormulas cleaned ∧
    List.Forall₂ Json.MaybeSanitized sheets cleaned
  /-- If all sheets are within the bound, all is as without one. -/
  within : (∀ sheet ∈ sheets, RowsWithin limit sheet) → ∀ files persist,
    generate (withBound settings (some limit)) files request persist
      = generate (withBound settings none) files request persist
  /-- Otherwise the first sheet that is not is reported, nothing is built and nothing is logged.
  There are words for the report unless the name of the sheet cannot be written. -/
  beyond : ¬ (∀ sheet ∈ sheets, RowsWithin limit sheet) →
    ∃ before sheet behind e, sheets = before ++ sheet :: behind ∧
      (∀ s ∈ before, RowsWithin limit s) ∧ Exceeds limit sheet e ∧ e.field = some "rows" ∧
        SaysWhich limit sheet e ∧ WordedByName sheet e ∧ ∀ files persist,
          generate (withBound settings (some limit)) files request persist
            = ⟨.error (.failure (.build e)), files, []⟩
  /-- A document that is made has no cell in a row beyond the bound, and neither has the workbook
  that it was saved from. -/
  made : ∀ files persist g,
    (generate (withBound settings (some limit)) files request persist).result = .ok g →
      ∃ w, (buildWorkbook request.sanitizeFormulas).outcome = .ok w ∧ w.save = .ok g.document ∧
        (∀ s ∈ w.sheets, ∀ c ∈ s.cells.toList, c.row ≤ limit + 1) ∧
          ∀ s ∈ g.document.sheets, ∀ c ∈ s.cells, ∃ row column,
            c.reference = Document.reference row column ∧ row ≤ limit + 1

/-- **The bound on rows is exact.** -/
theorem rowBound_exact (settings : Settings) (limit : Nat) {request : Json}
    (hw : request.WellFormed) (hvalid : check settings request = []) :
    ∃ sheets, HasSheets request sheets ∧ BoundsRows settings limit request sheets := by
  obtain ⟨sheets, hsheets⟩ := exists_hasSheets hvalid
  obtain ⟨cleaned, hcleaned, hmembers⟩ := hsheets.of_maybeSanitized (.sanitized request)
  have hexcess : rowExcess? (some (limit : Int)) request.sanitizeFormulas
      = cleaned.findSome? (excess? limit) := by
    rw [rowExcess?, Option.bind_some, hcleaned.sheetsOf_eq]
  have hcases := rowExcess_cases limit hmembers
  refine ⟨sheets, hsheets, ?_⟩
  constructor
  case found => exact ⟨cleaned, hcleaned, hmembers⟩
  case within =>
    intro hwithin files persist
    rcases hcases with ⟨-, hnone⟩ | ⟨before, sheet, behind, e, rfl, -, hexceeds, -⟩
    · exact generate_of_within (hexcess.trans hnone)
    · exact absurd (hwithin sheet (by simp)) hexceeds.not_within
  case beyond =>
    intro hbeyond
    rcases hcases with ⟨hwithin, -⟩ | ⟨before, sheet, behind, e, rfl, hbefore, hexceeds, hsome⟩
    · exact absurd hwithin hbeyond
    · refine ⟨before, sheet, behind, e, rfl, hbefore, hexceeds, ?_, hexceeds.saysWhich,
        hexceeds.wordedByName, fun files persist => ?_⟩
      · obtain ⟨-, -, -⟩ := hexceeds
        rfl
      · exact generate_of_excess hvalid (hexcess.trans hsome)
  case made =>
    intro files persist g hg
    obtain ⟨w, hbuilt, hsave, hrows⟩ := exists_built_of_generate hw hg
    refine ⟨w, hbuilt, hsave, hrows, fun x hx c hc => ?_⟩
    -- a saved cell is one of the workbook, and its reference says where it stands
    obtain ⟨s, hs, hsaved⟩ := Workbook.exists_sheet_of_save hsave hx
    obtain ⟨d, hd, hcell⟩ := Document.exists_cell_of_savedSheet hsaved hc
    exact ⟨d.row, d.column, Document.reference_of_savedCell hcell, hrows s hs d hd⟩

/-- A request for two sheets, the first with one data row and the second, in other spellings, with
two. -/
def growingRequest : Json :=
  .obj [("workbook", .obj [("name", .str "q"), ("sheets", .arr [
    .obj [("name", .str "a"), ("header", .obj [("columns", .arr [.str "c"])]),
      ("rows", .arr [.obj [("c", .int 1)]])],
    .obj [("nomeAba", .str "b"), ("cabecalho", .obj [("columns", .arr [.str "c"])]),
      ("dados", .arr [.obj [("c", .int 2)], .obj [("c", .int 3)]])]])])]

/-- With a bound of one row the second sheet is reported. -/
theorem rowBound_exact_growing :
    growingRequest.WellFormed ∧ check .defaults growingRequest = [] ∧
      rowExcess? (some 1) growingRequest.sanitizeFormulas
        = some (.tooManyRows (.str "b") 2 1) ∧
      ∃ sheets, HasSheets growingRequest sheets ∧
        BoundsRows .defaults 1 growingRequest sheets := by
  have hw : growingRequest.WellFormed := by decide
  have hvalid : check .defaults growingRequest = [] := by decide
  exact ⟨hw, hvalid, by decide, rowBound_exact .defaults 1 hw hvalid⟩

/-- A request for two sheets, the second with two data rows and a number for a name. -/
def numberedRequest (n : Int) : Json :=
  .obj [("workbook", .obj [("name", .str "q"), ("sheets", .arr [
    .obj [("name", .str "a"), ("header", .obj [("columns", .arr [.str "c"])]),
      ("rows", .arr [.obj [("c", .int 1)]])],
    .obj [("name", .int n), ("rows", .arr [.null, .null])]])])]

/-- With a bound of one row it is reported, but for a number that is too long there are no words to
report it with. -/
theorem numberedRequest_unworded :
    check .defaults (numberedRequest (10 ^ 4300)) = [] ∧
      ∃ e : BuildError,
        (generate (withBound .defaults (some 1)) .empty (numberedRequest (10 ^ 4300)) none).result
          = .error (.failure (.build e)) ∧ e.message? = none := by
  have hmessage : ∀ n, (Json.int n).isWritable = false →
      (BuildError.tooManyRows (.int n) 2 1).message? = none := by
    intro n hn
    rw [BuildError.message?, Json.display?, if_neg (by simp [hn])]
    rfl
  exact ⟨by decide +kernel, .tooManyRows (.int (10 ^ 4300)) 2 1, by decide +kernel,
    hmessage _ (by decide +kernel)⟩

end Service

end Gridwork
