import Gridwork.Workbook.Basic
import Mathlib.Data.List.Nodup

/-!
# How sheets grow

A sheet is only ever written behind its cursor. Two relations say so:

* `Sheet.Advances s t` — one row further: the row at the cursor of `s` was reserved, and all new
  cells lie in it, from left to right;
* `Sheet.Grows s t` — any number of rows further.

Growing keeps what is there. The cell that a sheet shows at a place is the one that was written
there last (`Sheet.cell?`), so a cell could disappear under a later one; it does not, since new
cells lie in rows that the sheet had not reserved before (`Sheet.Grows.cell?_eq`). For a sheet that
has grown from an empty one, all cells lie between its first row and its cursor
(`Sheet.Grows.row_mem`), and no place is written twice (`Sheet.Grows.ordered`).
-/

namespace Gridwork

/-! ### The order of cells -/

/-- The order in which cells are written: by rows, and from left to right within a row. -/
def Cell.Before (a b : Cell) : Prop := a.row < b.row ∨ a.row = b.row ∧ a.column < b.column

namespace Sheet

/-- All cells come in the order of writing. -/
def Ordered (s : Sheet) : Prop := s.cells.toList.Pairwise Cell.Before

/-- The cell that a sheet shows at a place: the last one written there. -/
def cell? (s : Sheet) (row column : Nat) : Option Cell :=
  s.cells.toList.reverse.find? fun c => c.row == row && c.column == column

/-- In an ordered sheet every cell is shown at its place. -/
theorem cell?_eq_some_iff {s : Sheet} (hs : s.Ordered) {row column : Nat} {c : Cell} :
    s.cell? row column = some c ↔ c ∈ s.cells.toList ∧ c.row = row ∧ c.column = column := by
  have hpair : s.cells.toList.reverse.Pairwise fun a b => Cell.Before b a :=
    List.pairwise_reverse.mpr hs
  rw [cell?, ← List.mem_reverse]
  -- on the cells, last one first, each of which comes behind all that follow
  generalize s.cells.toList.reverse = cells at hpair ⊢
  induction cells with
  | nil => simp
  | cons a rest ih =>
    obtain ⟨ha, hrest⟩ := List.pairwise_cons.mp hpair
    rw [List.find?_cons]
    by_cases hplace : a.row = row ∧ a.column = column
    · obtain ⟨rfl, rfl⟩ := hplace
      simp only [beq_self_eq_true, Bool.and_self, Option.some.injEq, List.mem_cons]
      constructor
      · rintro rfl
        exact ⟨Or.inl rfl, rfl, rfl⟩
      · rintro ⟨rfl | hc, hrow, hcolumn⟩
        · rfl
        · -- a cell at the same place does not come before this one
          rcases ha c hc with h | h <;> omega
    · have hfalse : (a.row == row && a.column == column) = false := by
        rw [Bool.eq_false_iff]
        simpa using hplace
      rw [hfalse, List.mem_cons]
      -- the first cell stands elsewhere, so it may be left out on both sides
      refine (ih hrest).trans ⟨fun ⟨hc, h⟩ => ⟨Or.inr hc, h⟩, fun ⟨hc, h⟩ => ⟨?_, h⟩⟩
      rcases hc with rfl | hc
      · exact absurd h hplace
      · exact hc

/-- In an ordered sheet no two cells have the same place. -/
theorem Ordered.nodup_places {s : Sheet} (hs : s.Ordered) :
    (s.cells.toList.map fun c => (c.row, c.column)).Nodup := by
  -- `Cell.Before` is irreflexive in the places
  refine List.pairwise_map.mpr (List.Pairwise.imp (fun {a b} hab heq => ?_) hs)
  obtain ⟨hrow, hcolumn⟩ := Prod.mk.inj heq
  rcases hab with h | h <;> omega

/-- What a sheet shows at a place is one of its cells. -/
theorem mem_of_cell? {s : Sheet} {row column : Nat} {c : Cell} (h : s.cell? row column = some c) :
    c ∈ s.cells.toList ∧ c.row = row ∧ c.column = column := by
  have hplace := List.find?_some h
  rw [Bool.and_eq_true, beq_iff_eq, beq_iff_eq] at hplace
  exact ⟨List.mem_reverse.mp (List.mem_of_find?_eq_some h), hplace⟩

/-- Where no cell was added, a sheet shows what it showed. -/
theorem cell?_eq_of_added {s t : Sheet} {added : List Cell} {row column : Nat}
    (ht : t.cells.toList = s.cells.toList ++ added)
    (hplace : ∀ c ∈ added, c.row = row → c.column ≠ column) :
    t.cell? row column = s.cell? row column := by
  -- the added cells are searched first and do not hold the place
  have hnone : added.reverse.find? (fun c => c.row == row && c.column == column) = none := by
    rw [List.find?_eq_none]
    intro c hc hfound
    simp only [Bool.and_eq_true, beq_iff_eq] at hfound
    exact hplace c (List.mem_reverse.mp hc) hfound.1 hfound.2
  rw [cell?, ht, List.reverse_append, List.find?_append, hnone, Option.none_or]
  rfl

/-! ### One row further -/

/-- One row further: the next row was reserved, and every new cell lies in it. -/
structure Advances (s t : Sheet) : Prop where
  title_eq : t.title = s.title
  nextRow_eq : t.nextRow = s.nextRow + 1
  exists_added : ∃ added : List Cell, t.cells.toList = s.cells.toList ++ added ∧
    (∀ c ∈ added, (c.row : Int) = s.nextRow) ∧ added.Pairwise Cell.Before

theorem advances_reserveRow (s : Sheet) : s.Advances s.reserveRow :=
  ⟨rfl, rfl, [], by simp, by simp, List.Pairwise.nil⟩

/-- Outside of the reserved row nothing changes. -/
theorem Advances.cell?_eq {s t : Sheet} (h : s.Advances t) {row column : Nat}
    (hrow : (row : Int) ≠ s.nextRow) : t.cell? row column = s.cell? row column := by
  obtain ⟨added, hcells, hadded, -⟩ := h.exists_added
  refine cell?_eq_of_added hcells fun c hc heq => absurd ?_ hrow
  rw [← heq]
  exact hadded c hc

/-! ### Any number of rows further -/

/-- Any number of rows further: every new cell lies in a row that was reserved on the way. -/
structure Grows (s t : Sheet) : Prop where
  title_eq : t.title = s.title
  nextRow_le : s.nextRow ≤ t.nextRow
  exists_added : ∃ added : List Cell, t.cells.toList = s.cells.toList ++ added ∧
    (∀ c ∈ added, s.nextRow ≤ c.row ∧ (c.row : Int) < t.nextRow) ∧ added.Pairwise Cell.Before

theorem Grows.refl (s : Sheet) : s.Grows s :=
  ⟨rfl, Int.le_refl _, [], by simp, by simp, List.Pairwise.nil⟩

theorem Advances.grows {s t : Sheet} (h : s.Advances t) : s.Grows t := by
  obtain ⟨added, hcells, hadded, hpair⟩ := h.exists_added
  have hnext := h.nextRow_eq
  refine ⟨h.title_eq, by omega, added, hcells, fun c hc => ?_, hpair⟩
  have hrow := hadded c hc
  omega

theorem Grows.trans {s t u : Sheet} (hst : s.Grows t) (htu : t.Grows u) : s.Grows u := by
  obtain ⟨added, hcells, hadded, hpair⟩ := hst.exists_added
  obtain ⟨added', hcells', hadded', hpair'⟩ := htu.exists_added
  have hle := hst.nextRow_le
  have hle' := htu.nextRow_le
  refine ⟨htu.title_eq.trans hst.title_eq, by omega, added ++ added', ?_, fun c hc => ?_, ?_⟩
  · rw [hcells', hcells, List.append_assoc]
  · -- both parts keep between the first cursor and the last one
    rcases List.mem_append.mp hc with hc | hc
    · have h := hadded c hc
      omega
    · have h := hadded' c hc
      omega
  · refine List.pairwise_append.mpr ⟨hpair, hpair', fun a ha b hb => Or.inl ?_⟩
    -- the first part ends where the second begins
    have h := hadded a ha
    have h' := hadded' b hb
    omega

/-- **Nothing disappears.** Growing changes no row that the sheet had reserved before. -/
theorem Grows.cell?_eq {s t : Sheet} (h : s.Grows t) {row column : Nat}
    (hrow : (row : Int) < s.nextRow) : t.cell? row column = s.cell? row column := by
  obtain ⟨added, hcells, hadded, -⟩ := h.exists_added
  refine cell?_eq_of_added hcells fun c hc heq => ?_
  have hc' := hadded c hc
  omega

/-! ### From an empty sheet on -/

section FromEmpty

variable {title : Text} {first : Int} {s : Sheet}

/-- The cells of a sheet lie between its first row and its cursor. -/
theorem Grows.row_mem (h : (empty title first).Grows s) {c : Cell} (hc : c ∈ s.cells.toList) :
    first ≤ c.row ∧ (c.row : Int) < s.nextRow := by
  obtain ⟨added, hcells, hadded, -⟩ := h.exists_added
  rw [hcells] at hc
  exact hadded c (by simpa [empty] using hc)

/-- The cells of a sheet come in the order of writing. -/
theorem Grows.ordered (h : (empty title first).Grows s) : s.Ordered := by
  obtain ⟨added, hcells, -, hpair⟩ := h.exists_added
  rw [Ordered, hcells]
  simpa [empty] using hpair

/-- A shown cell lies in a reserved row. -/
theorem Grows.row_lt_of_cell? (h : (empty title first).Grows s) {row column : Nat} {c : Cell}
    (hc : s.cell? row column = some c) : (row : Int) < s.nextRow := by
  obtain ⟨hmem, rfl, -⟩ := (cell?_eq_some_iff h.ordered).mp hc
  exact (h.row_mem hmem).2

end FromEmpty

end Sheet

end Gridwork
