import Gridwork.Proofs.Lists
import Gridwork.Proofs.Number.Binary64
import Gridwork.Workbook.Document

/-!
# What saving does

Saving writes the sheets of a workbook one by one and the cells of a sheet one by one, and gives up
at the first that cannot be written. Two things are read off it:

* what a file says stems from the workbook: every saved sheet has the title of a sheet
  (`exists_sheet_of_save`), and every saved cell is a cell of it (`exists_cell_of_savedSheet`);
* which workbooks can be saved (`exists_save_iff`): those with a sheet in which every cell is
  `Cell.Storable`, that is, stands in a column that has a name and holds no number that is too large
  for a double.
-/

namespace Gridwork

/-! ### Cells -/

/-- A content can be saved unless it is a number that is too large for a double. -/
def Content.Storable : Content → Prop
  | .int n => n.natAbs < 2 ^ 1024 - 2 ^ 970
  | _ => True

/-- A cell can be saved if its column has a name and its content can be saved. -/
structure Cell.Storable (c : Cell) : Prop where
  column : c.column ≤ Document.maxColumn
  content : c.content.Storable

namespace Document

theorem exists_savedContent_iff (content : Content) :
    (∃ o, savedContent content = .ok o) ↔ content.Storable := by
  cases content with
  | float | bool | text | vacant | refused => exact iff_of_true ⟨_, rfl⟩ trivial
  | int n =>
    rw [Content.Storable, ← Binary64.ofInt?_isSome_iff, savedContent]
    cases Binary64.ofInt? n with
    | none => exact iff_of_false (fun ⟨o, h⟩ => by cases h) (by decide)
    | some x => exact iff_of_true ⟨_, rfl⟩ rfl

theorem exists_savedCell_iff (c : Cell) :
    (∃ o, savedCell c = .ok o) ↔ c.content.Storable := by
  rw [← exists_savedContent_iff, savedCell]
  cases savedContent c.content with
  | error e => exact iff_of_false (fun ⟨o, h⟩ => by cases h) fun ⟨o, h⟩ => by cases h
  | ok o =>
    cases o with
    | none => exact iff_of_true ⟨_, rfl⟩ ⟨_, rfl⟩
    | some saved => exact iff_of_true ⟨_, rfl⟩ ⟨_, rfl⟩

/-- A saved cell is referred to by its place. -/
theorem reference_of_savedCell {c : Cell} {saved : SavedCell} (h : savedCell c = .ok (some saved)) :
    saved.reference = reference c.row c.column := by
  unfold savedCell at h
  split at h
  · rw [← Option.some.inj (Except.ok.inj h)]
  · cases h
  · cases h

/-- A saved text stems from a cell that holds it. -/
theorem content_of_savedCell {c : Cell} {saved : SavedCell} (h : savedCell c = .ok (some saved))
    (hkind : saved.kind = .text) {s : Text} (htext : saved.text = some s) :
    c.content = .text s := by
  unfold savedCell at h
  cases hcontent : c.content with
  | int n =>
    rw [hcontent, savedContent] at h
    cases hn : Binary64.ofInt? n with
    | none =>
      rw [hn] at h
      cases h
    | some x =>
      rw [hn] at h
      obtain rfl := Option.some.inj (Except.ok.inj h)
      cases hkind
  | float x | bool x =>
    rw [hcontent] at h
    obtain rfl := Option.some.inj (Except.ok.inj h)
    cases hkind
  | vacant | refused =>
    rw [hcontent] at h
    cases h
  | text t =>
    rw [hcontent] at h
    obtain rfl := Option.some.inj (Except.ok.inj h)
    -- an empty text is not written, so what is there is the whole text
    change savedText t = some s at htext
    unfold savedText at htext
    split at htext
    · cases htext
    · rw [Option.some.inj htext]

theorem mem_of_savedCells {cells : List Cell} {done saved : List SavedCell}
    (h : savedCells done cells = .ok saved) {x : SavedCell} (hx : x ∈ saved) :
    x ∈ done ∨ ∃ c ∈ cells, savedCell c = .ok (some x) := by
  -- along the cells, each time with those done before
  fun_induction savedCells done cells with
  | case1 done =>
    obtain rfl := Except.ok.inj h
    exact Or.inl (List.mem_reverse.mp hx)
  | case2 done c rest new hc ih =>
    rcases ih h with hdone | ⟨c', hc', hx'⟩
    · rcases List.mem_cons.mp hdone with rfl | hdone
      · exact Or.inr ⟨c, List.mem_cons_self, hc⟩
      · exact Or.inl hdone
    · exact Or.inr ⟨c', List.mem_cons_of_mem _ hc', hx'⟩
  | case3 done c rest hc ih =>
    rcases ih h with hdone | ⟨c', hc', hx'⟩
    · exact Or.inl hdone
    · exact Or.inr ⟨c', List.mem_cons_of_mem _ hc', hx'⟩
  | case4 done c rest e hc => cases h

theorem exists_savedCells_iff (done : List SavedCell) (cells : List Cell) :
    (∃ saved, savedCells done cells = .ok saved) ↔ ∀ c ∈ cells, c.content.Storable := by
  fun_induction savedCells done cells with
  | case1 done => exact iff_of_true ⟨_, rfl⟩ (by simp)
  | case2 done c rest new hc ih =>
    have hstorable := (exists_savedCell_iff c).mp ⟨_, hc⟩
    rw [ih, List.forall_mem_cons, and_iff_right hstorable]
  | case3 done c rest hc ih =>
    have hstorable := (exists_savedCell_iff c).mp ⟨_, hc⟩
    rw [ih, List.forall_mem_cons, and_iff_right hstorable]
  | case4 done c rest e hc =>
    refine iff_of_false (fun ⟨saved, h⟩ => by cases h) fun hall => ?_
    obtain ⟨o, ho⟩ := (exists_savedCell_iff c).mpr (hall c List.mem_cons_self)
    rw [hc] at ho
    cases ho

/-! ### Sheets -/

/-- A sheet without cells beyond the last column is saved cell by cell. -/
theorem savedSheet_of_narrow {s : Sheet} (h : ∀ c ∈ s.cells.toList, c.column ≤ maxColumn) :
    savedSheet s = (savedCells [] s.cells.toList).map (⟨s.title, ·⟩) := by
  refine if_neg fun hwide => ?_
  rw [← Array.any_toList, List.any_eq_true] at hwide
  obtain ⟨c, hc, hcolumn⟩ := hwide
  exact absurd (h c hc) (Nat.not_le.mpr (of_decide_eq_true hcolumn))

/-- A sheet that is saved has no cell beyond the last column. -/
theorem narrow_of_savedSheet {s : Sheet} {saved : SavedSheet} (h : savedSheet s = .ok saved) :
    ∀ c ∈ s.cells.toList, c.column ≤ maxColumn := by
  intro c hc
  by_contra hcolumn
  have hwide : (s.cells.any fun c => maxColumn < c.column) = true := by
    rw [← Array.any_toList, List.any_eq_true]
    exact ⟨c, hc, decide_eq_true (Nat.not_le.mp hcolumn)⟩
  rw [savedSheet, if_pos hwide] at h
  cases h

theorem savedCells_of_savedSheet {s : Sheet} {saved : SavedSheet} (h : savedSheet s = .ok saved) :
    ∃ cells, savedCells [] s.cells.toList = .ok cells ∧ saved = ⟨s.title, cells⟩ := by
  rw [savedSheet_of_narrow (narrow_of_savedSheet h)] at h
  cases hcells : savedCells [] s.cells.toList with
  | error e =>
    rw [hcells] at h
    cases h
  | ok cells =>
    rw [hcells] at h
    exact ⟨cells, rfl, (Except.ok.inj h).symm⟩

theorem title_of_savedSheet {s : Sheet} {saved : SavedSheet} (h : savedSheet s = .ok saved) :
    saved.title = s.title := by
  obtain ⟨cells, -, rfl⟩ := savedCells_of_savedSheet h
  rfl

/-- Every cell of a saved sheet stems from a cell of the sheet. -/
theorem exists_cell_of_savedSheet {s : Sheet} {saved : SavedSheet} (h : savedSheet s = .ok saved)
    {x : SavedCell} (hx : x ∈ saved.cells) :
    ∃ c ∈ s.cells.toList, savedCell c = .ok (some x) := by
  obtain ⟨cells, hcells, rfl⟩ := savedCells_of_savedSheet h
  exact (mem_of_savedCells hcells hx).resolve_left List.not_mem_nil

theorem exists_savedSheet_iff (s : Sheet) :
    (∃ saved, savedSheet s = .ok saved) ↔ ∀ c ∈ s.cells.toList, c.Storable := by
  constructor
  · rintro ⟨saved, h⟩ c hc
    obtain ⟨cells, hcells, -⟩ := savedCells_of_savedSheet h
    have hcontent := (exists_savedCells_iff [] s.cells.toList).mp ⟨cells, hcells⟩
    exact ⟨narrow_of_savedSheet h c hc, hcontent c hc⟩
  · intro hstorable
    obtain ⟨cells, hcells⟩ := (exists_savedCells_iff [] s.cells.toList).mpr
      fun c hc => (hstorable c hc).content
    rw [savedSheet_of_narrow fun c hc => (hstorable c hc).column, hcells]
    exact ⟨_, rfl⟩

end Document

/-! ### Workbooks -/

namespace Workbook

theorem mapM_of_save {w : Workbook} {d : Document} (h : w.save = .ok d) :
    w.sheets.mapM Document.savedSheet = .ok d.sheets := by
  unfold save at h
  split at h
  · cases h
  · cases hsheets : w.sheets.mapM Document.savedSheet with
    | error e =>
      rw [hsheets] at h
      cases h
    | ok sheets =>
      rw [hsheets] at h
      obtain rfl := Except.ok.inj h
      rfl

/-- Every saved sheet stems from a sheet of the workbook. -/
theorem exists_sheet_of_save {w : Workbook} {d : Document} (h : w.save = .ok d)
    {saved : SavedSheet} (hsaved : saved ∈ d.sheets) :
    ∃ s ∈ w.sheets, Document.savedSheet s = .ok saved :=
  exists_mem_of_mapM (mapM_of_save h) hsaved

/-- **Which workbooks can be saved.** -/
theorem exists_save_iff (w : Workbook) :
    (∃ d, w.save = .ok d) ↔
      w.sheets ≠ [] ∧ ∀ s ∈ w.sheets, ∀ c ∈ s.cells.toList, c.Storable := by
  simp only [← Document.exists_savedSheet_iff, ← exists_mapM_iff]
  constructor
  · rintro ⟨d, h⟩
    refine ⟨fun hnil => ?_, d.sheets, mapM_of_save h⟩
    rw [save, hnil] at h
    cases h
  · rintro ⟨hne, sheets, hsheets⟩
    have hsome : w.sheets.isEmpty = false := List.isEmpty_eq_false_iff.mpr hne
    refine ⟨⟨sheets⟩, ?_⟩
    rw [save, hsome, hsheets]
    rfl

end Workbook

end Gridwork
