import Gridwork.Proofs.Build.Grammar
import Mathlib.Data.List.Induction

/-!
# Filling a sheet

A sheet is filled row by row, the header first. `ends_writeSheet` says what comes of it: either the
header and the rows describe something, and the sheet holds exactly that (`SheetForm.sheet`), or
building stops (`SheetStops`) — because they do not describe anything, or because the sheet has not
enough rows. What has been written until then stays, so the sheet has grown in any case.
-/

namespace Gridwork

/-- The members of an array; nothing else has any. -/
def Json.items : Json → List Json
  | .arr items => items
  | _ => []

/-! ### Rows one below the other -/

/-- A sheet with drafts in its next rows. -/
def Sheet.addRows (s : Sheet) (drafts : List Draft) : Sheet := drafts.foldl Sheet.addRow s

theorem Sheet.addRows_append_singleton (s : Sheet) (drafts : List Draft) (d : Draft) :
    s.addRows (drafts ++ [d]) = (s.addRows drafts).addRow d := by
  rw [addRows, List.foldl_append]
  rfl

@[simp] theorem Sheet.addRows_title (s : Sheet) (drafts : List Draft) :
    (s.addRows drafts).title = s.title := by
  induction drafts using List.reverseRecOn with
  | nil => rfl
  | append_singleton drafts d ih => rw [addRows_append_singleton, addRow_title, ih]

@[simp] theorem Sheet.addRows_nextRow (s : Sheet) (drafts : List Draft) :
    (s.addRows drafts).nextRow = s.nextRow + drafts.length := by
  induction drafts using List.reverseRecOn with
  | nil => simp [addRows]
  | append_singleton drafts d ih =>
    rw [addRows_append_singleton, addRow_nextRow, ih, List.length_append, List.length_singleton]
    omega

/-- The progress once drafts have been written. -/
def Progress.addRows (p : Progress Sheet) (drafts : List Draft) : Progress Sheet :=
  ⟨p.state.addRows drafts, p.events ++ (drafts.flatMap Draft.events).toArray⟩

theorem Progress.addRows_nil (p : Progress Sheet) : p.addRows [] = p := by
  simp [addRows, Sheet.addRows]

theorem Progress.addRows_append_singleton (p : Progress Sheet) (drafts : List Draft) (d : Draft) :
    p.addRows (drafts ++ [d]) = (p.addRows drafts).addRow d := by
  simp [addRows, addRow, Sheet.addRows_append_singleton, List.flatMap_append]

namespace SheetForm

/-- What is to go into the rows of a sheet. -/
def drafts (form : SheetForm) : List Draft := form.header.draft :: form.rows.map RowPlan.draft

/-- The sheet that a form describes. -/
def sheet (form : SheetForm) (title : Text) : Sheet := (Sheet.empty title 1).addRows form.drafts

/-- What building a sheet reports. -/
def events (form : SheetForm) : List Event :=
  form.drafts.flatMap Draft.events ++ [.builtSheet form.name (form.rows.length + 1)]

@[simp] theorem sheet_title (form : SheetForm) (title : Text) :
    (form.sheet title).title = title := Sheet.addRows_title _ _

end SheetForm

namespace Build

variable {p q r : Progress Sheet} {s t u : Sheet}

/-! ### How filling a sheet ends -/

/-- What writing drafts into the next rows does. -/
structure RowsWritten (p : Progress Sheet) (drafts : List Draft) (q : Progress Sheet) : Prop where
  grows : p.state.Grows q.state
  eq : q = p.addRows drafts

theorem RowsWritten.nil (p : Progress Sheet) : RowsWritten p [] p :=
  ⟨.refl _, (Progress.addRows_nil p).symm⟩

theorem RowsWritten.append_singleton {drafts : List Draft} {d : Draft}
    (h : RowsWritten p drafts q) (hd : RowWritten q d r) : RowsWritten p (drafts ++ [d]) r := by
  refine ⟨h.grows.trans hd.advances.grows, ?_⟩
  rw [Progress.addRows_append_singleton, ← h.eq]
  exact hd.eq

/-- How filling a sheet stops. `described` says that what was to be written follows the grammar,
`rows` is the number of rows that were to be written. -/
structure SheetStops (s : Sheet) (described : Prop) (rows : Nat) (e : Failure) (t : Sheet) :
    Prop where
  grows : s.Grows t
  reason : (∃ b, e = .build b ∧ ¬ described) ∨
    (e = .rowOutOfRange ∧ ∃ i < rows, ¬ Cell.InRange (s.nextRow + i))

theorem SheetStops.of_not_described {described : Prop} {rows : Nat} {b : BuildError}
    (h : ¬ described) : SheetStops s described rows (.build b) s :=
  ⟨.refl s, Or.inl ⟨b, rfl, h⟩⟩

/-- Some rows were written before. -/
theorem SheetStops.after {described described' : Prop} {rows rows' : Nat} {e : Failure}
    (h : SheetStops t described rows e u) (written : Nat) (hst : s.Grows t)
    (hnext : t.nextRow = s.nextRow + written) (himp : described' → described)
    (hle : written + rows ≤ rows') : SheetStops s described' rows' e u := by
  refine ⟨hst.trans h.grows, ?_⟩
  rcases h.reason with ⟨b, he, hnot⟩ | ⟨he, i, hi, hrange⟩
  · exact Or.inl ⟨b, he, mt himp hnot⟩
  · -- the row counts from the cursor before the rows that were written
    refine Or.inr ⟨he, written + i, by omega, ?_⟩
    rw [hnext, Int.add_assoc] at hrange
    exact_mod_cast hrange

/-- A row that could not be written stops the sheet. -/
theorem RowStops.sheetStops {read : Except BuildError Draft} {described : Prop} {e : Failure}
    (h : RowStops p read e q) (himp : described → ∃ draft, read = .ok draft ∧ draft.Writable) :
    SheetStops p.state described 1 e q.state := by
  have hgrows : p.state.Grows q.state := by
    rcases h.advances with rfl | hadv
    · exact .refl _
    · exact hadv.grows
  refine ⟨hgrows, ?_⟩
  cases h with
  | @unread b hread =>
    refine Or.inl ⟨b, rfl, fun hd => ?_⟩
    obtain ⟨draft, hok, -⟩ := himp hd
    rw [hread] at hok
    cases hok
  | @stopped draft j entry _ p' _ hread hentry hdone hrefused =>
    -- reading gives one draft, and this entry of it cannot be written
    have hnot : ¬ entry.writable → ¬ described := by
      intro hw hd
      obtain ⟨d, hok, hwritable⟩ := himp hd
      obtain rfl := Except.ok.inj (hread.symm.trans hok)
      exact hw (hwritable entry (List.mem_of_getElem? hentry))
    cases hrefused with
    | outOfRange hrow => exact Or.inr ⟨rfl, 0, by omega, by simpa using hrow⟩
    | untouched hw => exact Or.inl ⟨_, rfl, hnot hw⟩
    | blank hw => exact Or.inl ⟨_, rfl, hnot hw⟩

/-! ### The header and the rows -/

theorem ends_writeSheetHeader (path : Text) (plan : SheetPlan) :
    Ends (writeSheetHeader path plan) p
      (fun _ q => ∃ header, plan.header.DescribesHeader header ∧ RowWritten p header.draft q)
      (fun e q => SheetStops p.state (∃ header, plan.header.DescribesHeader header) 1 e
        q.state) := by
  by_cases hnull : plan.header = .null
  · have hstop : writeSheetHeader path plan
        = stop (.noHeader plan.name (fieldPath path Field.header)) := by
      rw [writeSheetHeader, hnull]
    rw [hstop, hnull]
    exact ends_stop (.of_not_described fun ⟨header, h⟩ => (by cases h))
  · have hheader : writeSheetHeader path plan
        = writeHeader (fieldPath path Field.header) plan.header := by
      unfold writeSheetHeader
      split
      · exact absurd ‹_› hnull
      · rfl
    rw [hheader]
    refine (ends_writeHeader _ _).mono ?_ ?_
    · rintro _ q ⟨header, hread, hq⟩
      exact ⟨header, (Json.describesHeader_iff _).mpr ⟨hread, hq.writable⟩, hq⟩
    · intro e q h
      refine h.sheetStops ?_
      rintro ⟨header, hd⟩
      obtain ⟨hread, hw⟩ := (Json.describesHeader_iff (fieldPath path Field.header)).mp hd
      exact ⟨header.draft, by rw [hread]; rfl, hw⟩

theorem ends_writeRow_described (path : Text) (node : Json) :
    Ends (writeRow path node) p
      (fun _ q => ∃ plan, node.DescribesRow plan ∧ RowWritten p plan.draft q)
      (fun e q => SheetStops p.state (∃ plan, node.DescribesRow plan) 1 e q.state) := by
  refine (ends_writeRow path node).mono ?_ ?_
  · rintro _ q ⟨plan, hread, hq⟩
    exact ⟨plan, (Json.describesRow_iff path).mpr ⟨hread, hq.writable⟩, hq⟩
  · intro e q h
    refine h.sheetStops ?_
    rintro ⟨plan, hd⟩
    obtain ⟨hread, hw⟩ := (Json.describesRow_iff path).mp hd
    exact ⟨plan.draft, by rw [hread]; rfl, hw⟩

theorem ends_writeSheetRows (path : Text) (plan : SheetPlan) :
    Ends (writeSheetRows path plan) p
      (fun _ q => ∃ rows, plan.rows.DescribesRows rows ∧ RowsWritten p (rows.map RowPlan.draft) q)
      (fun e q => SheetStops p.state (∃ rows, plan.rows.DescribesRows rows)
        plan.rows.items.length e q.state) := by
  cases hrows : plan.rows with
  | null =>
    rw [writeSheetRows, hrows]
    exact ends_pure ⟨[], .null, .nil p⟩
  | bool | int | float | str | obj =>
    rw [writeSheetRows, hrows]
    exact ends_stop (.of_not_described fun ⟨rows, h⟩ => (by cases h))
  | arr nodes =>
    rw [writeSheetRows, hrows]
    -- the invariant: the rows before index `i` are described and written
    refine (ends_forEach (fun i q => ∃ rows, List.Forall₂ Json.DescribesRow (nodes.take i) rows ∧
        RowsWritten p (rows.map RowPlan.draft) q) ⟨[], .nil, .nil p⟩ fun i node q hi hq => ?_).mono
      ?_ fun e q h => h
    · rw [Nat.zero_add] at hq ⊢
      obtain ⟨rows, hdescribed, hwritten⟩ := hq
      have hlt : i < nodes.length := (List.getElem?_eq_some_iff.mp hi).1
      -- so many rows further the cursor stands
      have hlen : rows.length = i := by
        rw [← hdescribed.length_eq, List.length_take_of_le (Nat.le_of_lt hlt)]
      refine (ends_writeRow_described _ node).mono ?_ ?_
      · rintro _ r ⟨plan, hplan, hr⟩
        refine ⟨rows ++ [plan], ?_, ?_⟩
        · rw [List.take_add_one, hi, Option.toList_some]
          exact List.rel_append hdescribed (.cons hplan .nil)
        · rw [List.map_append]
          exact hwritten.append_singleton hr
      · intro e r h
        refine h.after i hwritten.grows ?_ ?_ hlt
        · rw [hwritten.eq]
          simp [Progress.addRows, hlen]
        · -- if all nodes described rows, this one would
          rintro ⟨plans, hplans⟩
          cases hplans with
          | arr hplans =>
            obtain ⟨plan, -, hplan⟩ := exists_getElem?_of_forall₂ hplans hi
            exact ⟨plan, hplan⟩
    · rintro _ q ⟨rows, hdescribed, hwritten⟩
      rw [List.take_of_length_le (by simp)] at hdescribed
      exact ⟨rows, .arr hdescribed, hwritten⟩

/-- **What comes of filling a sheet.** -/
theorem ends_writeSheet (title : Text) (events : Array Event) (path : Text) (plan : SheetPlan) :
    Ends (writeSheet path plan) ⟨.empty title 1, events⟩
      (fun _ q => ∃ form : SheetForm, form.name = plan.name ∧
        plan.header.DescribesHeader form.header ∧ plan.rows.DescribesRows form.rows ∧
          (Sheet.empty title 1).Grows q.state ∧
            q = ⟨form.sheet title, events ++ form.events.toArray⟩)
      (fun e q => SheetStops (.empty title 1)
        (∃ form : SheetForm, plan.header.DescribesHeader form.header ∧
          plan.rows.DescribesRows form.rows) (1 + plan.rows.items.length) e q.state) := by
  refine ends_bind ((ends_writeSheetHeader path plan).mono ?_ ?_)
  · rintro _ q ⟨header, hheader, hq⟩
    refine ends_bind ((ends_writeSheetRows path plan).mono ?_ ?_)
    · rintro _ r ⟨rows, hrows, hr⟩
      refine ends_bind (ends_get (ends_report ?_))
      set form : SheetForm := ⟨plan.name, header, rows⟩ with hform
      have hwritten : r = Progress.addRows ⟨.empty title 1, events⟩ form.drafts := by
        rw [hr.eq, hq.eq]
        simp [Progress.addRows, Progress.addRow, Sheet.addRows, SheetForm.drafts, hform]
      refine ⟨form, rfl, hheader, hrows, hq.advances.grows.trans hr.grows, ?_⟩
      rw [hwritten]
      have hrowsWritten : ((Sheet.empty title 1).addRows form.drafts).rowsWritten
          = form.rows.length + 1 := by
        simp only [Sheet.rowsWritten, Sheet.addRows_nextRow, Sheet.empty, SheetForm.drafts,
          List.length_cons, List.length_map]
        omega
      simp only [Progress.addRows, hrowsWritten, SheetForm.sheet, SheetForm.events]
      simp [hform]
    · intro e r h
      refine h.after 1 hq.advances.grows ?_ ?_ (Nat.le_refl _)
      · rw [hq.eq]
        rfl
      · rintro ⟨form, -, hrows⟩
        exact ⟨form.rows, hrows⟩
  · -- a form needs a header
    intro e q h
    refine h.after 0 (.refl _) (by simp) ?_ (by omega)
    rintro ⟨form, hheader, -⟩
    exact ⟨form.header, hheader⟩

end Build

end Gridwork
