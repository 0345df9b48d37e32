import Gridwork.Proofs.Build.Interchange
import Gridwork.Proofs.Build.Reports
import Gridwork.Proofs.Json.Reordering
import Gridwork.Proofs.Validation.Reordering

/-!
# Building does not depend on the order of keys

The entries of a request are dealt with in their order, and so are those of a data row; of all other
objects the fields are looked up by name. The entries of a request that are not its workbook are
passed over, and the style of a data row is found, and read, before the first cell is written. So a
request that is reordered (`Json.ReorderedRequest`) is built into the same workbook or refused with
the same error: `outcome_of_reordered`. What is reported on the way may differ, since an entry that
is passed over behind a faulty workbook is not reported.

The violations of a tree are listed as the walk comes to them, so there the order shows; but they
are the same violations. Both together are `reordering_unnoticed`.
-/

namespace Gridwork

open Json

/-! ### Styles -/

namespace Style

variable {v w : Json} {a b : Entries}

theorem readAlignment_of_reordered (h : ReorderedFlat v w) (path : Text) :
    readAlignment path v = readAlignment path w := by
  cases h with
  | same => rfl
  | @obj a b h =>
    have hget : ∀ k, a.get? k = b.get? k := fun k => h.get?_eq rfl
    dsimp only [readAlignment]
    rw [hget, hget]

theorem readColor_of_reordered (h : ReorderedFlat v w) (path : Text) :
    readColor path v = readColor path w := by
  cases h with
  | same => rfl
  | @obj a b h =>
    have hchannel : ∀ channel, readChannel a channel path = readChannel b channel path := by
      intro channel
      rw [readChannel, readChannel, h.get?_eq rfl]
    dsimp only [readColor]
    rw [hchannel, hchannel, hchannel]

/-- Under all fields but the alignment and the colours the values are the same. -/
theorem reorderedStylePart_of_not_mem {k : Text}
    (h : k ∉ [Field.alignment, Field.textColor, Field.fillColor]) : reorderedStylePart k = Eq := by
  simp only [List.mem_cons, List.not_mem_nil, or_false, not_or] at h
  obtain ⟨halignment, htext, hfill⟩ := h
  rw [reorderedStylePart, underField_of_ne halignment, underField_of_ne htext,
    underField_of_ne hfill]

theorem readBorders_of_reordered (h : Entries.Reordered reorderedStylePart a b) (path : Text) :
    readBorders a path = readBorders b path := by
  -- no name of a border flag is that of an alignment or a colour
  have hplain : ∀ names ∈ borderNames, Field.canonical names.1 = names.1 ∧
      names.1 ∉ [Field.alignment, Field.textColor, Field.fillColor] ∧
      Field.canonical names.2 ∉ [Field.alignment, Field.textColor, Field.fillColor] := by decide
  refine readBorders_of_names (fun names hnames => ?_) path
  obtain ⟨hcanonical, hfull, hshort⟩ := hplain names hnames
  exact ⟨h.field_of names.1 hcanonical (reorderedStylePart_of_not_mem hfull) rfl,
    h.get?_eq (reorderedStylePart_of_not_mem hshort)⟩

/-- **A style is read the same**, since its fields are read in an order of their own. -/
theorem read_of_reordered (h : ReorderedStyle v w) (path : Text) : read path v = read path w := by
  cases h with
  | same => rfl
  | obj h =>
    -- the alignment and the colours may be reordered themselves, all else is the same
    have hcolors : ∀ name ∈ [Field.textColor, Field.fillColor],
        Field.canonical name = name ∧ name ≠ Field.alignment := by decide
    have hflags : ∀ name ∈ [Field.bold, Field.italic, Field.underline],
        Field.canonical name = name ∧
          name ∉ [Field.alignment, Field.textColor, Field.fillColor] := by decide
    refine read_of_parts path (fun path => ?_) (fun name hname path => ?_) (fun name hname => ?_)
      (readBorders_of_reordered h path)
    · exact readAlignment_of_reordered
        (h.field_of Field.alignment (by decide) underField_self (.same _)) path
    · obtain ⟨hcanonical, hne⟩ := hcolors name hname
      have hpart : reorderedStylePart name = ReorderedFlat := by
        rw [reorderedStylePart, underField_of_ne hne]
        unfold underField
        rcases List.mem_pair.mp hname with rfl | rfl
        · rw [if_pos rfl]
        · rw [if_pos rfl, ite_self]
      exact readColor_of_reordered (h.field_of name hcanonical hpart (.same _)) path
    · obtain ⟨hcanonical, hplain⟩ := hflags name hname
      exact h.field_of name hcanonical (reorderedStylePart_of_not_mem hplain) rfl

end Style

/-! ### Headers, data rows and sheets -/

theorem sameHeader_of_reordered {v w : Json} (h : ReorderedHeader v w) : SameHeader v w := by
  cases h with
  | same => exact .refl v
  | @obj a b h =>
    have hstyle : Option.Rel ReorderedStyle (a.field? Field.style) (b.field? Field.style) := by
      have hfield := h.field? Field.style (by decide)
      rwa [underField_self] at hfield
    exact sameHeader_of_fields
      (h.field_of Field.columns (by decide) (underField_of_ne (by decide)) rfl)
      (readStyleField_of_rel (fun _ _ => Style.read_of_reordered) hstyle)

theorem sameRow_of_reordered {v w : Json} (h : ReorderedRow v w) : SameRow v w := by
  cases h with
  | same => exact fun _ => rfl
  | @obj a b h =>
    -- each spelling of the style is looked up among the styles alone
    have hstyle : Option.Rel ReorderedStyle (a.field? Field.style) (b.field? Field.style) := by
      refine Entries.rel_field?_of_get? fun k hk => ?_
      have hget := h.style.get? k
      have hkind := (Field.isStyle_iff k).mpr hk
      rwa [Entries.get?_filter hkind, Entries.get?_filter hkind] at hget
    exact sameRow_of_fields h.columns
      (readStyleField_of_rel (fun _ _ => Style.read_of_reordered) hstyle)

theorem sameSheet_of_reordered {v w : Json} (h : ReorderedSheet v w) : SameSheet v w := by
  cases h with
  | same => exact .refl v
  | @obj a b h =>
    have hheader : ReorderedHeader (Entries.field a Field.header) (Entries.field b Field.header) :=
      h.field_of Field.header (by decide) underField_self (.same _)
    have hrows : EachRespelled ReorderedRow (Entries.field a Field.rows)
        (Entries.field b Field.rows) :=
      h.field_of Field.rows (by decide) ((underField_of_ne (by decide)).trans underField_self)
        (.same _)
    refine sameSheet_of_fields ?_ (sameHeader_of_reordered hheader)
      (hrows.imp fun _ _ => sameRow_of_reordered)
    exact h.field_of Field.name (by decide)
      ((underField_of_ne (by decide)).trans (underField_of_ne (by decide))) rfl

theorem sameWorkbook_of_reordered {v w : Json} (h : ReorderedWorkbook v w) : SameWorkbook v w := by
  cases h with
  | same => exact .refl v
  | @obj a b h =>
    have hsheets : EachRespelled ReorderedSheet (Entries.field a Field.sheets)
        (Entries.field b Field.sheets) :=
      h.field_of Field.sheets (by decide) underField_self (.same _)
    exact sameWorkbook_of_fields
      (h.field_of Field.name (by decide) (underField_of_ne (by decide)) rfl)
      (hsheets.imp fun _ _ => sameSheet_of_reordered)

/-! ### Requests -/

/-- **A reordered request has the same outcome**: the same workbook or the same error. -/
theorem outcome_of_reordered {v w : Json} (h : ReorderedRequest v w) :
    (buildWorkbook v).outcome = (buildWorkbook w).outcome := by
  cases h with
  | same => rfl
  | @obj a b h =>
    have hworkbook : Option.Rel ReorderedWorkbook (a.get? Field.workbook)
        (b.get? Field.workbook) := by
      have hcanonical : Field.canonical Field.workbook = Field.workbook := by decide
      have hget := h.get? Field.workbook
      rwa [hcanonical, underField_self] at hget
    -- the workbooks are built by the same steps, each in its place among the entries
    refine outcome_of_sameButReports
      (Build.buildRequest_sameButReports h.distinct h.distinct_right ?_)
    generalize Entries.get? a Field.workbook = x at hworkbook
    generalize Entries.get? b Field.workbook = y at hworkbook
    cases hworkbook with
    | none => rfl
    | some hnode => exact Build.buildWorkbookNode_of_same (sameWorkbook_of_reordered hnode)

/-- **Reordering goes unnoticed.** A request has the same outcome if the entries of its objects
stand in another order, except for the columns of data rows. Every tree has the same violations,
listed in another order, if the entries of any of its objects do. -/
theorem reordering_unnoticed :
    (∀ request request' : Json, ReorderedRequest request request' →
      (buildWorkbook request).outcome = (buildWorkbook request').outcome) ∧
    ∀ tree tree' : Json, Shuffled tree tree' → ∀ scan,
      (violations scan tree).Perm (violations scan tree') :=
  ⟨fun _ _ h => outcome_of_reordered h, fun _ _ h scan => violations_of_shuffled h scan⟩

/-- A styled header. -/
def forwardHeader : Json :=
  .obj [("columns", .arr [.str "id", .str "city"]), ("style", .obj [
    ("alignment", .obj [("horizontal", .str "left"), ("vertical", .str "top")]),
    ("bold", .bool true)])]

/-- The same header with every object backwards. -/
def backwardHeader : Json :=
  .obj [("style", .obj [("bold", .bool true),
      ("alignment", .obj [("vertical", .str "top"), ("horizontal", .str "left")])]),
    ("columns", .arr [.str "id", .str "city"])]

/-- A styled row. -/
def forwardRow : Json :=
  .obj [("style", .obj [("fillColor", .obj [("R", .int 1), ("G", .int 2), ("B", .int 3)])]),
    ("id", .int 7), ("city", .str "Lyon")]

/-- The same row with its style behind the columns and the colour backwards. -/
def backwardRow : Json :=
  .obj [("id", .int 7), ("city", .str "Lyon"),
    ("style", .obj [("fillColor", .obj [("B", .int 3), ("G", .int 2), ("R", .int 1)])])]

/-- One sheet, beside a key that is passed over. -/
def forwardRequest : Json :=
  .obj [("workbook", .obj [("name", .str "Q1"), ("sheets", .arr [
      .obj [("name", .str "Data"), ("header", forwardHeader), ("rows", .arr [forwardRow])]])]),
    ("comment", .null)]

/-- The same request with every object backwards, except for the columns of the row. -/
def backwardRequest : Json :=
  .obj [("comment", .null),
    ("workbook", .obj [("sheets", .arr [
        .obj [("rows", .arr [backwardRow]), ("header", backwardHeader), ("name", .str "Data")]]),
      ("name", .str "Q1")])]

/-- A tree with keys that are not allowed, on two levels. -/
def forwardTree : Json := .obj [("x", .null), ("y", .arr [.obj [("z", .null), ("name", .null)]])]

/-- The same tree with both objects backwards. -/
def backwardTree : Json := .obj [("y", .arr [.obj [("name", .null), ("z", .null)]]), ("x", .null)]

theorem reordering_unnoticed_backwards :
    ReorderedRequest forwardRequest backwardRequest ∧ Shuffled forwardTree backwardTree ∧
      (buildWorkbook forwardRequest).outcome = (buildWorkbook backwardRequest).outcome ∧
      (violations true forwardTree).Perm (violations true backwardTree) := by
  have hrow : ReorderedRow forwardRow backwardRow := by
    refine .obj ⟨rfl, .of_reverse (by decide) (.cons ⟨rfl, ?_⟩ .nil)⟩
    refine .obj (.of_reverse (by decide) (.cons ⟨rfl, ?_⟩ .nil))
    exact .obj (.of_reverse (by decide)
      (.cons ⟨rfl, rfl⟩ (.cons ⟨rfl, rfl⟩ (.cons ⟨rfl, rfl⟩ .nil))))
  have hheader : ReorderedHeader forwardHeader backwardHeader := by
    refine .obj (.of_reverse (by decide) (.cons ⟨rfl, ?_⟩ (.cons ⟨rfl, rfl⟩ .nil)))
    refine .obj (.of_reverse (by decide) (.cons ⟨rfl, rfl⟩ (.cons ⟨rfl, ?_⟩ .nil)))
    exact .obj (.of_reverse (by decide) (.cons ⟨rfl, rfl⟩ (.cons ⟨rfl, rfl⟩ .nil)))
  have hrequest : ReorderedRequest forwardRequest backwardRequest := by
    refine .obj (.of_reverse (by decide) (.cons ⟨rfl, rfl⟩ (.cons ⟨rfl, ?_⟩ .nil)))
    refine .obj (.of_reverse (by decide) (.cons ⟨rfl, .arr (.cons ?_ .nil)⟩
      (.cons ⟨rfl, rfl⟩ .nil)))
    exact .obj (.of_reverse (by decide) (.cons ⟨rfl, .arr (.cons hrow .nil)⟩
      (.cons ⟨rfl, hheader⟩ (.cons ⟨rfl, rfl⟩ .nil))))
  have htree : Shuffled forwardTree backwardTree := by
    refine .tail (.single (.entry [("x", .null)] "y" [] (.item [] [] (.here ?_ (.swap _ _ _)))))
      (.here ?_ (.swap _ _ _))
    · exact (by decide : (["z", "name"] : List Text).Nodup)
    · exact (by decide : (["x", "y"] : List Text).Nodup)
  obtain ⟨hbuilt, hviolations⟩ := reordering_unnoticed
  exact ⟨hrequest, htree, hbuilt _ _ hrequest, hviolations _ _ htree true⟩

end Gridwork
