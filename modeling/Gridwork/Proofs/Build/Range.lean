import Gridwork.Proofs.Build.Laws
import Gridwork.Proofs.Build.Step

/-!
# No cell beyond the last row

A row is reserved without a look at how many there are; it is writing a cell that fails beyond the
last row. So whatever is built, all its cells lie in rows that a sheet has (`rows_of_built`).

The argument is one invariant, kept by every step of building: `Build.Keeps inv m` says that the
step `m` keeps `inv`, whether it succeeds or fails. It is enough to look at the steps that building
is put together from (`Build.SheetLaws`, `Build.WorkbookLaws`).
-/

namespace Gridwork

/-- All cells lie in rows that a sheet has. -/
def Sheet.WithinRows (s : Sheet) : Prop := ∀ c ∈ s.cells.toList, c.row ≤ Cell.maxRow

/-- All sheets have their cells in rows that a sheet has. -/
def Workbook.WithinRows (w : Workbook) : Prop := ∀ s ∈ w.sheets, s.WithinRows

theorem Sheet.withinRows_empty (title : Text) (nextRow : Int) :
    (Sheet.empty title nextRow).WithinRows := by
  intro c hc
  simp [Sheet.empty] at hc

theorem Sheet.WithinRows.push {s : Sheet} (h : s.WithinRows) {c : Cell} (hc : c.row ≤ Cell.maxRow) :
    (s.push c).WithinRows := by
  intro c' hc'
  rw [Sheet.push_cells, List.mem_append, List.mem_singleton] at hc'
  rcases hc' with hc' | rfl
  · exact h c' hc'
  · exact hc

namespace Build

/-- A step keeps an invariant of what is built, however it ends. -/
def Keeps {σ α : Type} (inv : σ → Prop) (m : Build σ α) : Prop :=
  ∀ p, inv p.state → Ends m p (fun _ q => inv q.state) (fun _ q => inv q.state)

theorem stepLaws_keeps {σ : Type} (inv : σ → Prop) : StepLaws fun m => Keeps inv m where
  pure _ := fun _ h => ends_pure h
  stop _ := fun _ h => ends_stop h
  report _ := fun _ h => ends_report h
  bind hm hf := fun p h => ends_bind ((hm p h).mono (fun a q hq => hf a q hq) fun _ _ hq => hq)
  look _ hf := fun p h => ends_bind (ends_get (hf p p h))

theorem keeps_change {σ : Type} {inv : σ → Prop} {f : σ → σ} (hf : ∀ s, inv s → inv (f s)) :
    Keeps inv (change f) :=
  fun _ h => ends_change (hf _ h)

theorem sheetLaws_withinRows : SheetLaws fun m => Keeps Sheet.WithinRows m where
  toStepLaws := stepLaws_keeps Sheet.WithinRows
  writeCell row column content style := by
    unfold writeCell
    -- a cell is pushed only after its row has been checked
    by_cases hrow : 1 ≤ row ∧ row ≤ (Cell.maxRow : Int)
    · rw [if_pos hrow]
      exact keeps_change fun s hs => hs.push (by dsimp only; omega)
    · rw [if_neg hrow]
      exact fun _ h => ends_throw h
  -- the cursor moves, the cells stay
  moveCursor := keeps_change fun _ hs => hs

theorem workbookLaws_withinRows : WorkbookLaws fun m => Keeps Workbook.WithinRows m where
  toStepLaws := stepLaws_keeps Workbook.WithinRows
  addSheet title path plan := by
    intro p hp
    have hadd : ∀ s : Sheet, s.WithinRows → (p.state.addSheet s).WithinRows := by
      intro s hs t ht
      rcases List.mem_append.mp ht with ht | ht
      · exact hp t ht
      · rw [List.mem_singleton.mp ht]
        exact hs
    -- a sheet that is filled is added to the others, even if filling it fails
    have hfill := sheetLaws_withinRows.writeSheet path plan ⟨.empty title 1, p.events⟩
      (Sheet.withinRows_empty title 1)
    exact ends_withNewSheet (hfill.mono (fun _ q hq => hadd _ hq) fun _ q hq => hadd _ hq)

end Build

/-- **No cell beyond the last row.** -/
theorem rows_of_built {request : Json} {w : Workbook}
    (h : (buildWorkbook request).outcome = .ok w) : w.WithinRows := by
  have hempty : Workbook.empty.WithinRows := fun s hs => absurd hs List.not_mem_nil
  have hends := Build.workbookLaws_withinRows.buildRequest request ⟨.empty, #[]⟩ hempty
  obtain ⟨_, hw⟩ := hends.of_built h
  exact hw

end Gridwork
