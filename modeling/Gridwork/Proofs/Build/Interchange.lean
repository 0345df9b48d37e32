import Gridwork.Build.Basic
import Gridwork.Proofs.Json.Respelling

/-!
# Nodes that building cannot tell apart

Building reads a node by the names of its fields and goes on with what it has read. Two nodes that
are read the same, wherever in the request they stand, are therefore interchangeable. `SameHeader`,
`SameRow`, `SameSheet` and `SameWorkbook` say this on each level of a request, each from the level
below, and `Build.buildWorkbookNode_of_same` says that such workbooks are built by the same steps:
into the same sheets, with the same events and errors.

Nodes that are read the same are made by spelling fields in another way and by giving them another
order. What the two have in common is stated here by the fields that are read, so that either has to
show no more than that these agree.
-/

namespace Gridwork

open Json

/-! ### Styles -/

namespace Style

variable {a b : Entries}

/-- The full and the short names of the border flags. -/
def borderNames : List (Text × Text) :=
  [(Field.borderAll, "all"), (Field.borderVertical, Field.vertical),
    (Field.borderHorizontal, Field.horizontal), (Field.borderLeft, "left"),
    (Field.borderRight, "right"), (Field.borderTop, "top"), (Field.borderBottom, "bottom")]

theorem readBorders_of_flags {path : Text} (h : ∀ names ∈ borderNames,
    readBorderFlag a path names.1 names.2 = readBorderFlag b path names.1 names.2) :
    readBorders a path = readBorders b path := by
  -- flag by flag, in the order in which they are read
  simp only [borderNames, List.forall_mem_cons] at h
  obtain ⟨hall, hvertical, hhorizontal, hleft, hright, htop, hbottom, -⟩ := h
  rw [readBorders, readBorders, hall, hvertical, hhorizontal, hleft, hright, htop, hbottom]

theorem readBorders_of_names (h : ∀ names ∈ borderNames,
    Entries.field a names.1 = Entries.field b names.1 ∧ a.get? names.2 = b.get? names.2)
    (path : Text) : readBorders a path = readBorders b path := by
  refine readBorders_of_flags fun names hnames => ?_
  obtain ⟨hfull, hshort⟩ := h names hnames
  rw [readBorderFlag, readBorderFlag, hfull, hshort]

/-- A style is read from its alignment, its colours, its font flags and its borders. -/
theorem read_of_parts (path : Text)
    (halignment : ∀ path, readAlignment path (Entries.field a Field.alignment)
      = readAlignment path (Entries.field b Field.alignment))
    (hcolor : ∀ name ∈ [Field.textColor, Field.fillColor], ∀ path,
      readColor path (Entries.field a name) = readColor path (Entries.field b name))
    (hflag : ∀ name ∈ [Field.bold, Field.italic, Field.underline],
      Entries.field a name = Entries.field b name)
    (hborders : readBorders a path = readBorders b path) :
    read path (.obj a) = read path (.obj b) := by
  simp only [List.forall_mem_cons] at hcolor hflag
  obtain ⟨htext, hfill, -⟩ := hcolor
  obtain ⟨hbold, hitalic, hunderline, -⟩ := hflag
  dsimp only [read]
  rw [halignment, htext, hfill, hbold, hitalic, hunderline, hborders]

end Style

/-- A style field is read the same if styles that are related are. -/
theorem readStyleField_of_rel {a b : Entries} {R : Json → Json → Prop}
    (hR : ∀ v w, R v w → ∀ path, Style.read path v = Style.read path w)
    (h : Option.Rel R (a.field? Field.style) (b.field? Field.style)) (path : Text) :
    readStyleField path a = readStyleField path b := by
  unfold readStyleField
  generalize a.field? Field.style = x at h
  generalize b.field? Field.style = y at h
  cases h with
  | none => rfl
  | some h =>
    dsimp only
    rw [hR _ _ h]

/-! ### Headers and data rows -/

/-- Two headers that are read the same. One is missing if the other is. -/
structure SameHeader (v w : Json) : Prop where
  missing : v = .null ↔ w = .null
  read : ∀ path, HeaderPlan.read path v = HeaderPlan.read path w

theorem SameHeader.refl (v : Json) : SameHeader v v := ⟨Iff.rfl, fun _ => rfl⟩

theorem sameHeader_of_fields {a b : Entries}
    (hcolumns : Entries.field a Field.columns = Entries.field b Field.columns)
    (hstyle : ∀ path, readStyleField path a = readStyleField path b) :
    SameHeader (.obj a) (.obj b) where
  missing := iff_of_false (by simp) (by simp)
  read path := by
    dsimp only [HeaderPlan.read]
    rw [hcolumns, hstyle]

/-- Two data rows that are read the same. -/
def SameRow (v w : Json) : Prop := ∀ path, RowPlan.read path v = RowPlan.read path w

theorem sameRow_of_fields {a b : Entries}
    (hcolumns : (a.filter fun entry => !Field.isStyle entry.1)
      = b.filter fun entry => !Field.isStyle entry.1)
    (hstyle : ∀ path, readStyleField path a = readStyleField path b) :
    SameRow (.obj a) (.obj b) := by
  intro path
  dsimp only [RowPlan.read]
  rw [hstyle, hcolumns]

/-! ### Sheets and workbooks -/

/-- Two attempts at reading fail for the same reason or give related results. -/
inductive ReadAlike {α : Type} (R : α → α → Prop) :
    Except BuildError α → Except BuildError α → Prop
  | error (e : BuildError) : ReadAlike R (.error e) (.error e)
  | ok {a b : α} (h : R a b) : ReadAlike R (.ok a) (.ok b)

theorem ReadAlike.refl {α : Type} {R : α → α → Prop} (hR : ∀ a, R a a) (r : Except BuildError α) :
    ReadAlike R r r := by
  cases r with
  | error e => exact .error e
  | ok a => exact .ok (hR a)

/-- Two plans by which the same sheet is built. -/
structure SheetPlan.Same (p q : SheetPlan) : Prop where
  name : p.name = q.name
  header : SameHeader p.header q.header
  rows : EachRespelled SameRow p.rows q.rows

theorem SheetPlan.Same.refl (p : SheetPlan) : p.Same p := ⟨rfl, .refl p.header, .same p.rows⟩

/-- Two sheets that are read alike, as plans by which the same sheet is built. -/
def SameSheet (v w : Json) : Prop :=
  ∀ path, ReadAlike SheetPlan.Same (SheetPlan.read path v) (SheetPlan.read path w)

theorem SameSheet.refl (v : Json) : SameSheet v v := fun _ => ReadAlike.refl SheetPlan.Same.refl _

theorem sameSheet_of_fields {a b : Entries}
    (hname : Entries.field a Field.name = Entries.field b Field.name)
    (hheader : SameHeader (Entries.field a Field.header) (Entries.field b Field.header))
    (hrows : EachRespelled SameRow (Entries.field a Field.rows) (Entries.field b Field.rows)) :
    SameSheet (.obj a) (.obj b) := by
  intro path
  -- whether a sheet can be read depends on its name alone
  dsimp only [SheetPlan.read]
  rw [hname]
  cases Entries.field b Field.name with
  | null | bool | int | float | arr | obj => exact .error _
  | str name =>
    dsimp only
    split
    · exact .error _
    · exact .ok ⟨rfl, hheader, hrows⟩

/-- Two workbooks whose sheets are read alike. -/
def SameWorkbook (v w : Json) : Prop :=
  ReadAlike (List.Forall₂ SameSheet) (readSheets v) (readSheets w)

theorem SameWorkbook.refl (v : Json) : SameWorkbook v v :=
  ReadAlike.refl (fun _ => List.forall₂_same.mpr fun sheet _ => SameSheet.refl sheet) _

theorem sameWorkbook_of_fields {a b : Entries}
    (hname : Entries.field a Field.name = Entries.field b Field.name)
    (hsheets : EachRespelled SameSheet (Entries.field a Field.sheets)
      (Entries.field b Field.sheets)) :
    SameWorkbook (.obj a) (.obj b) := by
  dsimp only [SameWorkbook, readSheets]
  rw [hname]
  generalize Entries.field a Field.sheets = x at hsheets
  generalize Entries.field b Field.sheets = y at hsheets
  cases Entries.field b Field.name with
  | null | bool | int | float | arr | obj => exact .error _
  | str name =>
    dsimp only
    cases hsheets with
    | same => exact .refl (fun _ => List.forall₂_same.mpr fun sheet _ => SameSheet.refl sheet) _
    | arr hmembers =>
      -- there are no sheets in both workbooks or in neither
      cases hmembers with
      | nil => exact .error _
      | cons hfirst hrest => exact .ok (.cons hfirst hrest)

/-! ### Building -/

namespace Build

/-- A loop does the same over lists whose members are dealt with alike. -/
theorem forEach_congr {σ α β : Type} {step : Nat → α → Build σ Unit}
    {step' : Nat → β → Build σ Unit} {as : List α} {bs : List β}
    (h : List.Forall₂ (fun a b => ∀ i, step i a = step' i b) as bs) (i : Nat) :
    forEach step i as = forEach step' i bs := by
  induction h generalizing i with
  | nil => rfl
  | cons hab _ ih => rw [forEach, forEach, hab, ih]

theorem writeRow_of_same {v w : Json} (h : SameRow v w) (path : Text) :
    writeRow path v = writeRow path w := by
  rw [writeRow, writeRow, h]

theorem writeSheetHeader_of_same {p q : SheetPlan} (h : p.Same q) (path : Text) :
    writeSheetHeader path p = writeSheetHeader path q := by
  obtain ⟨hmissing, hread⟩ := h.header
  unfold writeSheetHeader
  rw [h.name]
  by_cases hnull : p.header = .null
  · rw [hnull, hmissing.mp hnull]
  · -- neither is the null that stands for a missing header
    split
    · next heq => exact absurd heq hnull
    · split
      · next heq => exact absurd (hmissing.mpr heq) hnull
      · rw [writeHeader, writeHeader, hread]

theorem writeSheetRows_of_same {p q : SheetPlan} (h : p.Same q) (path : Text) :
    writeSheetRows path p = writeSheetRows path q := by
  have hrows := h.rows
  unfold writeSheetRows
  generalize p.rows = v at hrows
  generalize q.rows = w at hrows
  cases hrows with
  | same => rfl
  | arr h => exact forEach_congr (h.imp fun v w hrow i => writeRow_of_same hrow _) 0

theorem buildSheetAt_of_same {v w : Json} (h : SameSheet v w) (path : Text) (i : Nat) :
    buildSheetAt path i v = buildSheetAt path i w := by
  -- a sheet that cannot be read stops the building with the same error
  have hread := h (joinIndex path i)
  unfold buildSheetAt buildSheet
  generalize SheetPlan.read (joinIndex path i) v = x at hread
  generalize SheetPlan.read (joinIndex path i) w = y at hread
  cases hread with
  | error e => rfl
  | @ok p q h =>
    -- the plans themselves may differ, but they are handed to nobody
    simp only [ofExcept, pure_bind, bind_assoc]
    have hwrite : writeSheet (joinIndex path i) p = writeSheet (joinIndex path i) q := by
      rw [writeSheet, writeSheet, writeSheetHeader_of_same h, writeSheetRows_of_same h, h.name]
    rw [h.name, hwrite]

/-- **Workbooks that are read alike are built alike.** -/
theorem buildWorkbookNode_of_same {v w : Json} (h : SameWorkbook v w) :
    buildWorkbookNode v = buildWorkbookNode w := by
  unfold SameWorkbook at h
  unfold buildWorkbookNode
  generalize readSheets v = x at h
  generalize readSheets w = y at h
  cases h with
  | error e => rfl
  | ok h =>
    simp only [ofExcept, pure_bind]
    exact forEach_congr (h.imp fun v w hsheet i => buildSheetAt_of_same hsheet _ i) 0

end Build

end Gridwork
