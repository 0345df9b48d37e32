import Gridwork.Proofs.Build.Step
import Gridwork.Proofs.Workbook.Growth

/-!
# Writing a row

A header and a data row are written in the same way: their node is read, the next row is reserved,
and then the cells are written from left to right. What is to go into the cells is a `Draft`, whose
entries say what each cell will hold, whether it can be written at all, and what writing it reports.

Two statements say all that can happen to a progress `p`:

* `RowWritten p draft q` — every entry could be written, and `q` is `p` with the whole draft in the
  next row (`Progress.addRow`);
* `RowStops p read e q` — either the node could not be read and nothing was touched, or the entries
  up to some entry were written, and that one could not be (`Refused`).

`ends_writeHeader` and `ends_writeRow` say that nothing else can. In any case the sheet is left as
it was or one row further (`RowWritten.advances`, `RowStops.advances`).
-/

namespace Gridwork

/-! ### What a cell can hold -/

namespace Cell

/-- The row numbers that a cell can have. -/
def InRange (row : Int) : Prop := 1 ≤ row ∧ row ≤ maxRow

/-- The part of a text that a cell holds. -/
def fit (s : Text) : Text := ⟨s.toList.take maxTextLength⟩

/-- A text is legible if the part of it that a cell holds has no illegal control character. -/
def Legible (s : Text) : Prop := ∀ c ∈ s.toList.take maxTextLength, isIllegalChar c = false

instance (s : Text) : Decidable (Legible s) :=
  List.decidableBAll (isIllegalChar · = false) _

theorem textContent?_eq (s : Text) :
    textContent? s = if Legible s then some (.text (fit s)) else none := by
  have hany : (s.toList.take maxTextLength).any isIllegalChar = true ↔ ¬ Legible s := by
    simp [Legible]
  unfold textContent?
  by_cases h : Legible s
  · rw [if_pos h, if_neg (mt hany.mp (not_not_intro h))]
    rfl
  · rw [if_neg h, if_pos (hany.mpr h)]

end Cell

namespace Json

/-- What a cell holds for a value. -/
def content : Json → Content
  | .null => .vacant
  | .bool b => .bool b
  | .int n => .int n
  | .float x => .float x
  | .str s => .text (Cell.fit s)
  | .arr _ => .text ""
  | .obj _ => .text ""

/-- Whether a value can be written into a data row. -/
def Writable : Json → Prop
  | .null => False
  | .float x => x.isFinite = true
  | .str s => Cell.Legible s
  | _ => True

/-- Whether a value can be a label of a header. -/
def IsLabel : Json → Prop
  | .str s => Cell.Legible s
  | _ => False

/-- What writing a value under a key reports: that a nested value is left out. -/
def blankings (key : Text) : Json → List Event
  | .arr _ => [.blankedValue key .array]
  | .obj _ => [.blankedValue key .object]
  | _ => []

end Json

/-! ### Drafts -/

/-- What is to go into a cell: what it will hold, whether it can be written at all, and what writing
it reports. -/
structure Entry where
  content : Content
  writable : Prop
  events : List Event

/-- What is to go into a row. -/
structure Draft where
  entries : List Entry
  style : Option Style

namespace Draft

/-- The first entries of a draft. -/
def take (d : Draft) (n : Nat) : Draft := { d with entries := d.entries.take n }

theorem take_of_length_le {d : Draft} {n : Nat} (h : d.entries.length ≤ n) : d.take n = d := by
  rw [take, List.take_of_length_le h]

/-- Whether all entries can be written. -/
def Writable (d : Draft) : Prop := ∀ entry ∈ d.entries, entry.writable

/-- The cells of a draft in a row. -/
def cells (d : Draft) (row : Nat) : List Cell :=
  d.entries.zipIdx.map fun entry => ⟨row, entry.2 + 1, entry.1.content, d.style⟩

/-- What writing a draft reports. -/
def events (d : Draft) : List Event := d.entries.flatMap (·.events)

theorem row_eq_of_mem_cells {d : Draft} {row : Nat} {c : Cell} (hc : c ∈ d.cells row) :
    c.row = row := by
  obtain ⟨entry, -, rfl⟩ := List.mem_map.mp hc
  rfl

theorem column_le_of_mem_cells {d : Draft} {row : Nat} {c : Cell} (hc : c ∈ d.cells row) :
    c.column ≤ d.entries.length := by
  obtain ⟨entry, he, rfl⟩ := List.mem_map.mp hc
  have hlt := (List.mem_zipIdx' he).1
  exact hlt

theorem pairwise_cells (d : Draft) (row : Nat) : (d.cells row).Pairwise Cell.Before := by
  -- all cells are in one row, so their columns decide, and these count the entries
  have hindices : (d.entries.zipIdx.map Prod.snd).Pairwise (· < ·) := by
    rw [List.zipIdx_map_snd]
    exact List.pairwise_lt_range'
  refine List.pairwise_map.mpr ((List.pairwise_map.mp hindices).imp fun {a b} hab => ?_)
  exact Or.inr ⟨rfl, Nat.succ_lt_succ hab⟩

theorem cells_take_succ {d : Draft} {j : Nat} {entry : Entry} (h : d.entries[j]? = some entry)
    (row : Nat) :
    (d.take (j + 1)).cells row
      = (d.take j).cells row ++ [⟨row, j + 1, entry.content, d.style⟩] := by
  have hlt : j < d.entries.length := (List.getElem?_eq_some_iff.mp h).1
  simp only [cells, take]
  rw [List.take_add_one, h, Option.toList_some, List.zipIdx_append, List.map_append,
    List.length_take_of_le (Nat.le_of_lt hlt), Nat.zero_add]
  rfl

theorem events_take_succ {d : Draft} {j : Nat} {entry : Entry} (h : d.entries[j]? = some entry) :
    (d.take (j + 1)).events = (d.take j).events ++ entry.events := by
  simp only [events, take]
  rw [List.take_add_one, h, Option.toList_some, List.flatMap_append, List.flatMap_singleton]

end Draft

/-- What is to go into a header row. -/
def HeaderPlan.draft (plan : HeaderPlan) : Draft where
  entries := plan.columns.map fun v => ⟨v.content, v.IsLabel, []⟩
  style := some plan.style

/-- What is to go into a data row. -/
def RowPlan.draft (plan : RowPlan) : Draft where
  entries := plan.columns.map fun column =>
    ⟨column.2.content, column.2.Writable, column.2.blankings column.1⟩
  style := plan.style

theorem HeaderPlan.writable_draft_iff (plan : HeaderPlan) :
    plan.draft.Writable ↔ ∀ v ∈ plan.columns, v.IsLabel :=
  List.forall_mem_map

theorem RowPlan.writable_draft_iff (plan : RowPlan) :
    plan.draft.Writable ↔ ∀ column ∈ plan.columns, column.2.Writable :=
  List.forall_mem_map

/-- A sheet with a draft in its next row. -/
def Sheet.addRow (s : Sheet) (d : Draft) : Sheet where
  title := s.title
  nextRow := s.nextRow + 1
  cells := s.cells ++ (d.cells s.nextRow.toNat).toArray

@[simp] theorem Sheet.addRow_title (s : Sheet) (d : Draft) : (s.addRow d).title = s.title := rfl

@[simp] theorem Sheet.addRow_nextRow (s : Sheet) (d : Draft) :
    (s.addRow d).nextRow = s.nextRow + 1 := rfl

@[simp] theorem Sheet.addRow_cells (s : Sheet) (d : Draft) :
    (s.addRow d).cells.toList = s.cells.toList ++ d.cells s.nextRow.toNat := by simp [addRow]

/-- The progress once a draft has been written. -/
def Progress.addRow (p : Progress Sheet) (d : Draft) : Progress Sheet :=
  ⟨p.state.addRow d, p.events ++ d.events.toArray⟩

theorem Progress.addRow_take_zero (p : Progress Sheet) (d : Draft) :
    p.addRow (d.take 0) = ⟨p.state.reserveRow, p.events⟩ := by
  simp [addRow, Sheet.addRow, Draft.take, Draft.cells, Draft.events, Sheet.reserveRow]

theorem Progress.addRow_take_succ {p : Progress Sheet} {d : Draft} {j : Nat} {entry : Entry}
    (h : d.entries[j]? = some entry) :
    p.addRow (d.take (j + 1))
      = ⟨(p.addRow (d.take j)).state.push
            ⟨p.state.nextRow.toNat, j + 1, entry.content, d.style⟩,
          (p.addRow (d.take j)).events ++ entry.events.toArray⟩ := by
  simp only [addRow, Sheet.addRow, Sheet.push, Draft.cells_take_succ h, Draft.events_take_succ h]
  simp

namespace Build

/-! ### Writing a cell -/

/-- How writing into a cell fails: the sheet has no such row; or the value cannot be written, and at
most a cell without a value and without a style is left behind. -/
inductive Refused (row : Int) (column : Nat) (p : Progress Sheet) (writable : Prop) :
    Failure → Progress Sheet → Prop
  | outOfRange (h : ¬ Cell.InRange row) : Refused row column p writable .rowOutOfRange p
  | untouched {b : BuildError} (h : ¬ writable) : Refused row column p writable (.build b) p
  | blank {b : BuildError} {content : Content} (h : ¬ writable) (hrow : Cell.InRange row)
      (hcontent : content = .vacant ∨ content = .refused) :
      Refused row column p writable (.build b)
        ⟨p.state.push ⟨row.toNat, column, content, none⟩, p.events⟩

/-- What writing an entry into a cell does. -/
structure Wrote (row : Int) (column : Nat) (style : Option Style) (entry : Entry)
    (p q : Progress Sheet) : Prop where
  writable : entry.writable
  inRange : Cell.InRange row
  eq : q = ⟨p.state.push ⟨row.toNat, column, entry.content, style⟩,
    p.events ++ entry.events.toArray⟩

variable (row : Int) (column : Nat) (p : Progress Sheet)

theorem ends_writeCell (content : Content) (style : Option Style) :
    Ends (writeCell row column content style) p
      (fun _ q => Cell.InRange row ∧
        q = ⟨p.state.push ⟨row.toNat, column, content, style⟩, p.events⟩)
      (fun e q => ¬ Cell.InRange row ∧ e = .rowOutOfRange ∧ q = p) := by
  unfold writeCell
  by_cases h : 1 ≤ row ∧ row ≤ (Cell.maxRow : Int)
  · rw [if_pos h]
    exact ends_change ⟨h, rfl⟩
  · rw [if_neg h]
    exact ends_throw ⟨h, rfl, rfl⟩

/-- Writing a content that needs no check. -/
private theorem ends_writeCell_checked {content : Content} {writable : Prop} (h : writable)
    (style : Option Style) :
    Ends (writeCell row column content style) p
      (fun _ => Wrote row column style ⟨content, writable, []⟩ p)
      (Refused row column p writable) := by
  refine (ends_writeCell row column p content style).mono ?_ ?_
  · rintro _ _ ⟨hrow, rfl⟩
    exact ⟨h, hrow, by simp⟩
  · rintro _ _ ⟨hrow, rfl, rfl⟩
    exact .outOfRange hrow

/-- Leaving a cell without a value behind. -/
private theorem ends_writeCell_blank {content : Content} {writable : Prop} {b : BuildError}
    (h : ¬ writable) (hcontent : content = .vacant ∨ content = .refused)
    {ok : Unit → Progress Sheet → Prop} :
    Ends (do writeCell row column content none; stop b) p ok (Refused row column p writable) := by
  refine ends_bind ((ends_writeCell row column p content none).mono ?_ ?_)
  · rintro _ _ ⟨hrow, rfl⟩
    exact ends_stop (.blank h hrow hcontent)
  · rintro _ _ ⟨hrow, rfl, rfl⟩
    exact .outOfRange hrow

theorem ends_writeText (style : Option Style) (field text : Text) :
    Ends (writeText row column style field text) p
      (fun _ => Wrote row column style ⟨.text (Cell.fit text), Cell.Legible text, []⟩ p)
      (Refused row column p (Cell.Legible text)) := by
  unfold writeText
  rw [Cell.textContent?_eq]
  by_cases h : Cell.Legible text
  · rw [if_pos h]
    exact ends_writeCell_checked row column p h style
  · rw [if_neg h]
    exact ends_writeCell_blank row column p h (Or.inr rfl)

/-- Writing an empty text in place of a nested value. -/
private theorem ends_writeNested (style : Option Style) (key : Text) (e : Event) :
    Ends (do writeText row column style key ""; report e) p
      (fun _ => Wrote row column style ⟨.text "", True, [e]⟩ p) (Refused row column p True) := by
  refine ends_bind ((ends_writeText row column p style key "").mono ?_ ?_)
  · rintro _ _ ⟨-, hrow, rfl⟩
    have hfit : Cell.fit "" = "" := rfl
    exact ends_report ⟨trivial, hrow, by simp [hfit]⟩
  · -- an empty text is never refused, so only the row can be wrong
    rintro _ _ h
    have hlegible : Cell.Legible "" := by decide
    cases h with
    | outOfRange h => exact .outOfRange h
    | untouched h => exact absurd hlegible h
    | blank h => exact absurd hlegible h

theorem ends_writeValue (style : Option Style) (key : Text) (v : Json) :
    Ends (writeValue row column style key v) p
      (fun _ => Wrote row column style ⟨v.content, v.Writable, v.blankings key⟩ p)
      (Refused row column p v.Writable) := by
  cases v with
  | null => exact ends_stop (.untouched id)
  | bool b => exact ends_writeCell_checked row column p (show True from trivial) style
  | int n => exact ends_writeCell_checked row column p (show True from trivial) style
  | float x =>
    dsimp only [writeValue]
    -- a number that is not finite leaves a cell without a value
    by_cases h : x.isFinite = true
    · rw [if_pos h]
      exact ends_writeCell_checked row column p h style
    · rw [if_neg h]
      exact ends_writeCell_blank row column p h (Or.inl rfl)
  | str s => exact ends_writeText row column p style key s
  | arr items => exact ends_writeNested row column p style key _
  | obj entries => exact ends_writeNested row column p style key _

theorem ends_writeLabel (style : Style) (path : Text) (i : Nat) (v : Json) :
    Ends (writeLabel row style path i v) p
      (fun _ => Wrote row (i + 1) (some style) ⟨v.content, v.IsLabel, []⟩ p)
      (Refused row (i + 1) p v.IsLabel) := by
  cases v with
  | str s => exact ends_writeText row (i + 1) p (some style) _ s
  | null | bool | int | float | arr | obj => exact ends_stop (.untouched id)

/-! ### Writing a whole row -/

/-- What writing a draft into the next row does. -/
structure RowWritten (p : Progress Sheet) (draft : Draft) (q : Progress Sheet) : Prop where
  writable : draft.Writable
  inRange : draft.entries ≠ [] → Cell.InRange p.state.nextRow
  eq : q = p.addRow draft

/-- How writing a row fails: its node cannot be read, or the entries before some entry are written
and that one is refused. `read` is what reading the node gave. -/
inductive RowStops (p : Progress Sheet) (read : Except BuildError Draft) :
    Failure → Progress Sheet → Prop
  | unread {b : BuildError} (h : read = .error b) : RowStops p read (.build b) p
  | stopped {draft : Draft} {j : Nat} {entry : Entry} {e : Failure} {p' q : Progress Sheet}
      (hread : read = .ok draft) (hentry : draft.entries[j]? = some entry)
      (hdone : RowWritten p (draft.take j) p')
      (hrefused : Refused p.state.nextRow (j + 1) p' entry.writable e q) : RowStops p read e q

variable {p}

/-- Reading a plan, reserving a row and writing the entries of the plan's draft, each by its own
step. -/
private theorem ends_writeDraft {π β : Type} {read : Except BuildError π} {draft : π → Draft}
    {members : π → List β} {entry : β → Entry} {step : π → Int → Nat → β → Build Sheet Unit}
    (hentries : ∀ plan, (draft plan).entries = (members plan).map entry)
    (hstep : ∀ plan row i b p, Ends (step plan row i b) p
      (fun _ => Wrote row (i + 1) (draft plan).style (entry b) p)
      (Refused row (i + 1) p (entry b).writable)) :
    Ends (do
        let plan ← ofExcept read
        let row ← reserveRow
        forEach (step plan row) 0 (members plan)) p
      (fun _ q => ∃ plan, read = .ok plan ∧ RowWritten p (draft plan) q)
      (RowStops p (read.map draft)) := by
  refine ends_bind (ends_ofExcept (fun plan hplan => ?_) fun b hb => .unread (by rw [hb]; rfl))
  have hread : read.map draft = .ok (draft plan) := by
    rw [hplan]
    rfl
  -- a row that has only been reserved is the draft up to its first entry
  refine ends_bind (ends_bind (ends_get (ends_bind (ends_change (ends_pure ?_)))))
  rw [← Progress.addRow_take_zero p (draft plan)]
  have hwhole : (draft plan).take (0 + (members plan).length) = draft plan :=
    Draft.take_of_length_le (by simp [hentries])
  -- the invariant: at index `i` the first `i` entries are written
  refine (ends_forEach (fun i => RowWritten p ((draft plan).take i)) ?_ fun i b q hb hq => ?_).mono
    (fun _ q hq => ⟨plan, hplan, hwhole ▸ hq⟩) fun e q h => h
  · exact ⟨by simp [Draft.take, Draft.Writable], by simp [Draft.take], rfl⟩
  · rw [Nat.zero_add] at hq ⊢
    have hentry : (draft plan).entries[i]? = some (entry b) := by
      rw [hentries, List.getElem?_map, hb, Option.map_some]
    refine (hstep plan p.state.nextRow i b q).mono (fun _ r hr => ?_) fun e r hr => ?_
    · -- the entries up to `i` and the one written now are writable
      obtain rfl := hq.eq
      refine ⟨?_, fun _ => hr.inRange, hr.eq.trans (Progress.addRow_take_succ hentry).symm⟩
      simp only [Draft.Writable, Draft.take, List.take_add_one, hentry, Option.toList_some,
        List.mem_append, List.mem_singleton]
      rintro c (hc | rfl)
      · exact hq.writable c hc
      · exact hr.writable
    · exact .stopped hread hentry hq hr

theorem ends_writeHeader (path : Text) (node : Json) :
    Ends (writeHeader path node) p
      (fun _ q => ∃ plan, HeaderPlan.read path node = .ok plan ∧ RowWritten p plan.draft q)
      (RowStops p ((HeaderPlan.read path node).map HeaderPlan.draft)) := by
  refine ends_writeDraft (fun plan => rfl) fun plan row i b p => ?_
  exact ends_writeLabel row p plan.style (fieldPath path Field.columns) i b

theorem ends_writeRow (path : Text) (node : Json) :
    Ends (writeRow path node) p
      (fun _ q => ∃ plan, RowPlan.read path node = .ok plan ∧ RowWritten p plan.draft q)
      (RowStops p ((RowPlan.read path node).map RowPlan.draft)) := by
  refine ends_writeDraft (fun plan => rfl) fun plan row i b p => ?_
  exact ends_writeValue row (i + 1) p plan.style b.1 b.2

/-! ### One row further -/

theorem RowWritten.advances {draft : Draft} {q : Progress Sheet} (h : RowWritten p draft q) :
    p.state.Advances q.state := by
  rw [h.eq]
  refine ⟨rfl, rfl, _, Sheet.addRow_cells p.state draft, fun c hc => ?_, draft.pairwise_cells _⟩
  -- where there is a cell, its row is in range, so the cursor is not negative
  have hne : draft.entries ≠ [] := by
    intro hnil
    simp [Draft.cells, hnil] at hc
  have hrange := (h.inRange hne).1
  rw [Draft.row_eq_of_mem_cells hc]
  omega

/-- A refused cell adds at most a blank one at the end of the row. -/
theorem Refused.advances {draft : Draft} {j : Nat} {writable : Prop} {e : Failure}
    {p' q : Progress Sheet} (hdone : RowWritten p (draft.take j) p')
    (h : Refused p.state.nextRow (j + 1) p' writable e q) : p.state.Advances q.state := by
  cases h with
  | outOfRange => exact hdone.advances
  | untouched => exact hdone.advances
  | @blank _ content _ hrow _ =>
    obtain rfl := hdone.eq
    -- the added cells are those of the first entries and the blank one behind them
    refine ⟨rfl, rfl, (draft.take j).cells p.state.nextRow.toNat ++
      [⟨p.state.nextRow.toNat, j + 1, content, none⟩], ?_, fun c hc => ?_, ?_⟩
    · simp [Progress.addRow, List.append_assoc]
    · have hpos := hrow.1
      have hc' : c.row = p.state.nextRow.toNat := by
        rcases List.mem_append.mp hc with hc | hc
        · exact Draft.row_eq_of_mem_cells hc
        · rw [List.mem_singleton.mp hc]
      omega
    · refine List.pairwise_append.mpr
        ⟨(draft.take j).pairwise_cells _, List.pairwise_singleton _ _, fun a ha b hb => Or.inr ?_⟩
      have hcolumn : a.column ≤ j :=
        Nat.le_trans (Draft.column_le_of_mem_cells ha) (List.length_take_le j draft.entries)
      rw [Draft.row_eq_of_mem_cells ha, List.mem_singleton.mp hb]
      exact ⟨rfl, Nat.lt_succ_of_le hcolumn⟩

/-- A row that could not be written has left the sheet as it was or one row further. -/
theorem RowStops.advances {read : Except BuildError Draft} {e : Failure} {q : Progress Sheet}
    (h : RowStops p read e q) : q = p ∨ p.state.Advances q.state := by
  cases h with
  | unread h => exact Or.inl rfl
  | stopped hread hentry hdone hrefused => exact Or.inr (hrefused.advances hdone)

end Build

end Gridwork
