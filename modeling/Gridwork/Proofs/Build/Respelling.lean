import Gridwork.Proofs.Build.Interchange
import Gridwork.Proofs.Formula.Respelling
import Gridwork.Proofs.Validation.Respelling
import Gridwork.Service

/-!
# Building does not depend on spelling

A request that is respelled (`Json.RespelledRequest`) is built into the same workbook, with the same
events, or refused with the same error: `buildWorkbook_of_respelled`. The reason is the same on
every level: what is read of a node, a style, a header, a row or a sheet, is the same in both
spellings, and errors name fields by their canonical names.

Together with the file name, the bound on rows and validation this is `respelling_unnoticed`:
nothing that the service does with a request depends on the spelling of its fields.
-/

namespace Gridwork

open Json

/-! ### What is read -/

namespace Style

variable {a b : Entries}

theorem readBorders_of_respelled (h : Entries.Respelled Field.canonical (fun _ => Eq) a b)
    (path : Text) : readBorders a path = readBorders b path := by
  -- the long names may be respelled, the short ones have one spelling
  have hspellings : ∀ names ∈ borderNames, Field.canonical names.1 = names.1 ∧
      Field.canonical names.2 = names.2 ∧ Field.spellings names.2 = [names.2] := by decide
  refine readBorders_of_names (fun names hnames => ?_) path
  obtain ⟨hfull, hshort, honly⟩ := hspellings names hnames
  exact ⟨h.field_of names.1 hfull rfl rfl, h.get?_eq (Field.canonical_eq_iff hshort honly) rfl⟩

/-- **A style is read alike.** -/
theorem read_of_respelled {v w : Json} (h : RespelledStyle v w) (path : Text) :
    read path v = read path w := by
  cases h with
  | same => rfl
  | @obj a b h =>
    have hfield : ∀ name, Field.canonical name = name →
        Entries.field a name = Entries.field b name :=
      fun name hname => h.field_of name hname rfl rfl
    have hcolors : ∀ name ∈ [Field.textColor, Field.fillColor], Field.canonical name = name := by
      decide
    have hflags : ∀ name ∈ [Field.bold, Field.italic, Field.underline],
        Field.canonical name = name := by decide
    refine read_of_parts path (fun path => ?_) (fun name hname path => ?_) (fun name hname => ?_)
      (readBorders_of_respelled h path)
    · rw [hfield Field.alignment (by decide)]
    · rw [hfield name (hcolors name hname)]
    · exact hfield name (hflags name hname)

end Style

theorem sameHeader_of_respelled {v w : Json} (h : RespelledHeader v w) : SameHeader v w := by
  cases h with
  | same => exact .refl v
  | @obj a b h =>
    have hstyle : Option.Rel RespelledStyle (a.field? Field.style) (b.field? Field.style) :=
      h.field? Field.style fun _ => Field.mem_spellings_iff (by decide)
    exact sameHeader_of_fields h.columns_of_header
      (readStyleField_of_rel (fun _ _ => Style.read_of_respelled) hstyle)

/-- The columns of a respelled data row are the same. -/
theorem columns_of_respelled {a b : Entries} (h : Entries.Respelled Field.rowKey stylePart a b) :
    (a.filter fun entry => !Field.isStyle entry.1)
      = b.filter fun entry => !Field.isStyle entry.1 := by
  have hagree := h.agree
  clear h
  induction hagree with
  | nil => rfl
  | @cons e e' _ _ hentry _ ih =>
    obtain ⟨k, v⟩ := e
    obtain ⟨l, w⟩ := e'
    obtain ⟨hkey, hpart⟩ := hentry
    dsimp only at hkey hpart
    rcases Field.eq_or_isStyle_of_rowKey_eq hkey with rfl | ⟨hk, hl⟩
    · by_cases hstyle : Field.isStyle k = true
      · simp only [List.filter_cons, hstyle, Bool.not_true, Bool.false_eq_true, if_false, ih]
      · -- a column is no style, so its value is the same
        have hne : Field.rowKey k ≠ Field.style := fun heq =>
          hstyle ((Field.isStyle_iff k).mpr (Field.mem_spellings_style_iff.mpr heq))
        rw [stylePart, underField_of_ne hne] at hpart
        rw [List.filter_cons, List.filter_cons, hpart, ih]
    · simp only [List.filter_cons, hk, hl, Bool.not_true, Bool.false_eq_true, if_false, ih]

theorem sameRow_of_respelled {v w : Json} (h : RespelledRow v w) : SameRow v w := by
  cases h with
  | same => exact fun _ => rfl
  | @obj a b h =>
    have hstyle : Option.Rel RespelledStyle (a.field? Field.style) (b.field? Field.style) :=
      h.field? Field.style fun _ => Field.mem_spellings_style_iff
    exact sameRow_of_fields (columns_of_respelled h)
      (readStyleField_of_rel (fun _ _ => Style.read_of_respelled) hstyle)

theorem sameSheet_of_respelled {v w : Json} (h : RespelledSheet v w) : SameSheet v w := by
  cases h with
  | same => exact .refl v
  | obj h =>
    exact sameSheet_of_fields h.name_of_sheet (sameHeader_of_respelled h.header_of_sheet)
      (h.rows_of_sheet.imp fun _ _ => sameRow_of_respelled)

theorem sameWorkbook_of_respelled {v w : Json} (h : RespelledWorkbook v w) : SameWorkbook v w := by
  cases h with
  | same => exact .refl v
  | obj h =>
    exact sameWorkbook_of_fields h.name_of_workbook
      (h.sheets_of_workbook.imp fun _ _ => sameSheet_of_respelled)

namespace Build

/-! ### Building -/

/-- **A request is built alike.** -/
theorem buildRequest_of_respelled {v w : Json} (h : RespelledRequest v w) :
    buildRequest v = buildRequest w := by
  cases h with
  | same => rfl
  | @obj a b h =>
    -- the entries are dealt with in their order, and of the others only the keys are reported
    have hentries : forEach (fun _ => buildEntry) 0 a = forEach (fun _ => buildEntry) 0 b := by
      refine forEach_congr (h.agree.imp fun e e' hentry _ => ?_) 0
      obtain ⟨hkey, hpart⟩ := hentry
      dsimp only [id] at hkey hpart
      rw [buildEntry, buildEntry, ← hkey]
      by_cases hworkbook : e.1 = Field.workbook
      · rw [hworkbook, requestPart, underField_self] at hpart
        rw [if_pos hworkbook, if_pos hworkbook]
        exact buildWorkbookNode_of_same (sameWorkbook_of_respelled hpart)
      · rw [if_neg hworkbook, if_neg hworkbook]
    rw [buildRequest, buildRequest, hentries]

end Build

theorem buildWorkbook_of_respelled {v w : Json} (h : RespelledRequest v w) :
    buildWorkbook v = buildWorkbook w := by
  rw [buildWorkbook, buildWorkbook, Build.buildRequest_of_respelled h]

/-! ### The file name and the bound on rows -/

theorem Filename.derive_of_respelled {v w : Json} (h : RespelledRequest v w) :
    derive v = derive w := by
  have hname : workbookName? v = workbookName? w := by
    cases h with
    | same => rfl
    | @obj a b h =>
      have hworkbook := h.workbook_of_request
      dsimp only [workbookName?]
      generalize Entries.get? a Field.workbook = x at hworkbook
      generalize Entries.get? b Field.workbook = y at hworkbook
      cases hworkbook with
      | none => rfl
      | some hworkbook =>
        cases hworkbook with
        | same => rfl
        | obj h =>
          dsimp only
          rw [h.name_of_workbook]
  rw [derive, derive, hname]

namespace Service

theorem excess?_of_respelled {v w : Json} (h : RespelledSheet v w) (limit : Int) :
    excess? limit v = excess? limit w := by
  cases h with
  | same => rfl
  | @obj a b h =>
    have hrows := h.rows_of_sheet
    dsimp only [excess?]
    rw [h.name_of_sheet]
    generalize Entries.field a Field.rows = x at hrows
    generalize Entries.field b Field.rows = y at hrows
    cases hrows with
    | same => rfl
    | arr hmembers =>
      -- only the number of rows counts
      dsimp only
      rw [hmembers.length_eq]

theorem sheetsOf_of_respelled {v w : Json} (h : RespelledRequest v w) :
    List.Forall₂ RespelledSheet (sheetsOf v) (sheetsOf w) := by
  have hrefl : ∀ sheets : List Json, List.Forall₂ RespelledSheet sheets sheets :=
    fun sheets => List.forall₂_same.mpr fun v _ => .same v
  cases h with
  | same => exact hrefl _
  | @obj a b h =>
    have hworkbook := h.workbook_of_request
    dsimp only [sheetsOf]
    generalize Entries.get? a Field.workbook = x at hworkbook
    generalize Entries.get? b Field.workbook = y at hworkbook
    cases hworkbook with
    | none => exact .nil
    | some hworkbook =>
      cases hworkbook with
      | same => exact hrefl _
      | @obj a b h =>
        have hsheets := h.sheets_of_workbook
        dsimp only
        generalize Entries.field a Field.sheets = x at hsheets
        generalize Entries.field b Field.sheets = y at hsheets
        cases hsheets with
        | same => exact hrefl _
        | arr hmembers => exact hmembers

/-- The bound on rows decides alike, and with the same error. -/
theorem rowExcess?_of_respelled {v w : Json} (h : RespelledRequest v w) (bound : Option Int) :
    rowExcess? bound v = rowExcess? bound w := by
  cases bound with
  | none => rfl
  | some limit =>
    have hsheets := sheetsOf_of_respelled h
    rw [rowExcess?, rowExcess?, Option.bind_some, Option.bind_some]
    generalize sheetsOf v = sheets at hsheets
    generalize sheetsOf w = sheets' at hsheets
    -- along both lists of sheets, up to the first excess
    induction hsheets with
    | nil => rfl
    | cons hsheet _ ih =>
      rw [List.findSome?_cons, List.findSome?_cons, excess?_of_respelled hsheet, ih]

end Service

/-! ### The whole service -/

/-- Two requests that the service treats alike. -/
structure TreatedAlike (v w : Json) : Prop where
  /-- Their workbooks have the same file name. -/
  filename : Filename.derive v = Filename.derive w
  /-- They have equally many violations, whether the caller's data is scanned or not. -/
  violations : ∀ scan, (violations scan v).length = (violations scan w).length
  /-- Whatever the bound on rows, both keep it or both are refused with the same error. -/
  rows : ∀ settings : Settings,
    Service.rowExcess? settings.maxRowsPerSheet v = Service.rowExcess? settings.maxRowsPerSheet w
  /-- They are built into the same workbook or refused with the same error. -/
  built : (buildWorkbook v).outcome = (buildWorkbook w).outcome

theorem treatedAlike_of_respelled {v w : Json} (h : RespelledRequest v w) : TreatedAlike v w where
  filename := Filename.derive_of_respelled h
  violations := length_violations_of_respelled h
  rows settings := Service.rowExcess?_of_respelled h settings.maxRowsPerSheet
  built := congrArg Built.outcome (buildWorkbook_of_respelled h)

/-- **Respelling goes unnoticed.** Requests that differ only in the spelling of fields are treated
alike, as they come and with their formulas cleaned. -/
theorem respelling_unnoticed {request request' : Json} (h : RespelledRequest request request') :
    TreatedAlike request request' ∧
      TreatedAlike request.sanitizeFormulas request'.sanitizeFormulas :=
  ⟨treatedAlike_of_respelled h, treatedAlike_of_respelled h.sanitizeFormulas⟩

/-- One sheet with a styled header and a styled row, under the canonical names. -/
def plainRequest : Json :=
  .obj [("workbook", .obj [
    ("name", .str "Q1"),
    ("sheets", .arr [
      .obj [("name", .str "Data"),
        ("header", .obj [("columns", .arr [.str "id"]), ("style", .obj [("bold", .bool true)])]),
        ("rows", .arr [.obj [("style", .obj [("borderAll", .bool true)]), ("id", .int 7)]])]])])]

/-- The same sheet under the older names. -/
def olderRequest : Json :=
  .obj [("workbook", .obj [
    ("nomeWorkbook", .str "Q1"),
    ("abas", .arr [
      .obj [("nomeAba", .str "Data"),
        ("cabecalho",
          .obj [("campos", .arr [.str "id"]), ("estilo", .obj [("negrito", .bool true)])]),
        ("dados", .arr [.obj [("estilo", .obj [("bordaTotal", .bool true)]), ("id", .int 7)]])]])])]

theorem respelling_unnoticed_older : RespelledRequest plainRequest olderRequest ∧
    TreatedAlike plainRequest olderRequest ∧
      TreatedAlike plainRequest.sanitizeFormulas olderRequest.sanitizeFormulas := by
  have hheader : RespelledHeader
      (.obj [("columns", .arr [.str "id"]), ("style", .obj [("bold", .bool true)])])
      (.obj [("campos", .arr [.str "id"]), ("estilo", .obj [("negrito", .bool true)])]) := by
    refine .obj ⟨by decide, .cons ⟨by decide, rfl⟩ (.cons ⟨by decide, ?_⟩ .nil)⟩
    exact .obj ⟨by decide, .cons ⟨by decide, rfl⟩ .nil⟩
  have hrow : RespelledRow (.obj [("style", .obj [("borderAll", .bool true)]), ("id", .int 7)])
      (.obj [("estilo", .obj [("bordaTotal", .bool true)]), ("id", .int 7)]) := by
    refine .obj ⟨by decide, .cons ⟨by decide, ?_⟩ (.cons ⟨by decide, rfl⟩ .nil)⟩
    exact .obj ⟨by decide, .cons ⟨by decide, rfl⟩ .nil⟩
  have hrequest : RespelledRequest plainRequest olderRequest := by
    refine .obj ⟨by decide, .cons ⟨rfl, ?_⟩ .nil⟩
    refine .obj ⟨by decide, .cons ⟨by decide, rfl⟩ (.cons ⟨by decide, ?_⟩ .nil)⟩
    refine .arr (.cons ?_ .nil)
    refine .obj ⟨by decide, .cons ⟨by decide, rfl⟩ (.cons ⟨by decide, hheader⟩ (.cons
      ⟨by decide, .arr (.cons hrow .nil)⟩ .nil))⟩
  exact ⟨hrequest, respelling_unnoticed hrequest⟩

end Gridwork
