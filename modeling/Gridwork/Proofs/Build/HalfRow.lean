import Gridwork.Proofs.Build.Cutting
import Gridwork.Proofs.Build.Faults
import Gridwork.Proofs.Build.Loop
import Gridwork.Proofs.Build.Session

/-!
# Rows that could not be written

A header or a data row that cannot be written fails in one of two ways. Either its node cannot be
read, which is found out before anything is done (`BeforeRow`), and nothing has changed. Or it stops
at a column, and then the sheet is what the same row leaves when it is cut in front of that column,
with at most a blank cell in it (`Sheet.HalfWritten`). `Session.failed_row` says so for every
context of a session, whatever happened to it before.

A row is read whole before it is reserved, and then a loop goes through its columns. The kinds of
errors tell these two parts apart: no step of the loop fails for a reason of `BeforeRow`. The loop
stops at a member (`exists_cut_of_error`), and the same loop over the members in front of it is that
of the row that was cut, since what is read from the cut row is what is read from the whole one
(`HeaderPlan.read_cutHeader`, `RowPlan.read_cutRow`). What remains is the one cell at which it
stopped (`Refused.exists_added`). That there is nothing else in the reserved row is due to the
sheet: it has grown from an empty one, and so all its cells lie in rows that were reserved before.
-/

namespace Gridwork

/-- The errors that are found before a row is reserved: those of its style, and that there is no
object or no array of columns. -/
inductive BeforeRow : Failure → Prop
  | style (e : StyleError) : BeforeRow (.build (.style e))
  | notObject (path : Text) : BeforeRow (.build (.notObject path))
  | notArray (path : Text) : BeforeRow (.build (.notArray path))

/-! ### Half-written rows -/

/-- A cell without a value and without a style at a place, or none. -/
inductive AtMostBlank (row column : Nat) : List Cell → Prop
  | none : AtMostBlank row column []
  | blank {content : Content} (h : content = .vacant ∨ content = .refused) :
      AtMostBlank row column [⟨row, column, content, .none⟩]

theorem AtMostBlank.of_mem {row column : Nat} {added : List Cell}
    (h : AtMostBlank row column added) {c : Cell} (hc : c ∈ added) :
    c.column = column ∧ (c.content = .vacant ∨ c.content = .refused) ∧ c.style = .none := by
  cases h with
  | none => cases hc
  | blank hcontent =>
    rw [List.mem_singleton.mp hc]
    exact ⟨rfl, hcontent, rfl⟩

/-- What a row leaves behind that stopped at a column: `s` is the sheet before, `cut` the sheet that
the row leaves when it is cut in front of the column, and `t` the sheet afterwards. -/
structure Sheet.HalfWritten (s cut t : Sheet) (column : Nat) : Prop where
  title : t.title = s.title
  /-- One row has been reserved. -/
  nextRow : t.nextRow = s.nextRow + 1
  /-- All cells are those of the row that was cut, but for one blank cell at the column. -/
  cells : ∃ added, AtMostBlank s.nextRow.toNat column added ∧
    t.cells.toList = cut.cells.toList ++ added
  /-- No place has two cells. -/
  once : (t.cells.toList.map fun c => (c.row, c.column)).Nodup
  /-- In front of the column, the reserved row is the one that was cut. -/
  before : ∀ row j : Nat, (row : Int) = s.nextRow → j < column → t.cell? row j = cut.cell? row j
  /-- At the column it has a blank cell at most. -/
  here : ∀ (row : Nat) (c : Cell), (row : Int) = s.nextRow → t.cell? row column = some c →
    (c.content = .vacant ∨ c.content = .refused) ∧ c.style = .none
  /-- Behind the column it has no cell. -/
  behind : ∀ row j : Nat, (row : Int) = s.nextRow → column < j → t.cell? row j = .none
  /-- No other row has changed. -/
  elsewhere : ∀ row j : Nat, (row : Int) ≠ s.nextRow → t.cell? row j = s.cell? row j

namespace Build

variable {s : Sheet} {title : Text} {first : Int} {e : Failure} {q : Progress Sheet}

/-- A refused cell adds at most a blank one. -/
theorem Refused.exists_added {row : Int} {column : Nat} {p : Progress Sheet} {writable : Prop}
    (h : Refused row column p writable e q) :
    ∃ added, AtMostBlank row.toNat column added ∧
      q.state.cells.toList = p.state.cells.toList ++ added := by
  cases h with
  | outOfRange | untouched => exact ⟨[], .none, (List.append_nil _).symm⟩
  | blank _ _ hcontent => exact ⟨_, .blank hcontent, Sheet.push_cells _ _⟩

/-- The row that was reserved is a new one: all its cells are entries of the draft. -/
theorem RowWritten.column_le (hs : (Sheet.empty title first).Grows s) {d : Draft}
    {p : Progress Sheet} (h : RowWritten ⟨s, #[]⟩ d p) {c : Cell} (hc : c ∈ p.state.cells.toList)
    (hrow : (c.row : Int) = s.nextRow) : c.column ≤ d.entries.length := by
  rw [h.eq, Progress.addRow, Sheet.addRow_cells, List.mem_append] at hc
  rcases hc with hold | hnew
  · have hbelow := (hs.row_mem hold).2
    omega
  · exact Draft.column_le_of_mem_cells hnew

/-- **A row that stops is half written.** -/
theorem Refused.halfWritten (hs : (Sheet.empty title first).Grows s) {d : Draft} {j : Nat}
    {p : Progress Sheet} {writable : Prop} (hd : d.entries.length ≤ j)
    (hdone : RowWritten ⟨s, #[]⟩ d p) (h : Refused s.nextRow (j + 1) p writable e q) :
    s.HalfWritten p.state q.state (j + 1) := by
  have hadvances : s.Advances q.state := by
    rw [← Draft.take_of_length_le hd] at hdone
    exact h.advances hdone
  obtain ⟨added, hadded, hcells⟩ := h.exists_added
  -- behind the entries of the draft there is only what the refused cell has added
  have hreserved : ∀ {row column : Nat} {c : Cell}, (row : Int) = s.nextRow → j < column →
      q.state.cell? row column = some c → c ∈ added := by
    intro row column c hrow hcolumn hc
    obtain ⟨hmem, rfl, rfl⟩ := Sheet.mem_of_cell? hc
    rw [hcells, List.mem_append] at hmem
    refine hmem.resolve_left fun hold => ?_
    exact absurd (hdone.column_le hs hold hrow) (Nat.not_le.mpr (Nat.lt_of_le_of_lt hd hcolumn))
  constructor
  case title => exact hadvances.title_eq
  case nextRow => exact hadvances.nextRow_eq
  case cells => exact ⟨added, hadded, hcells⟩
  case once => exact (hs.trans hadvances.grows).ordered.nodup_places
  case before =>
    intro row column _ hcolumn
    refine Sheet.cell?_eq_of_added hcells fun c hc _ => ?_
    rw [(hadded.of_mem hc).1]
    exact Nat.ne_of_gt hcolumn
  case here =>
    intro row c hrow hc
    exact (hadded.of_mem (hreserved hrow (Nat.lt_succ_self j) hc)).2
  case behind =>
    intro row column hrow hcolumn
    by_contra hsome
    obtain ⟨c, hc⟩ := Option.ne_none_iff_exists'.mp hsome
    have hmem := hreserved hrow (Nat.lt_of_succ_lt hcolumn) hc
    have hplace := (Sheet.mem_of_cell? hc).2.2
    rw [(hadded.of_mem hmem).1] at hplace
    exact absurd hplace (Nat.ne_of_lt hcolumn)
  case elsewhere =>
    intro row column hrow
    exact hadvances.cell?_eq hrow

/-! ### How writing a row fails -/

/-- How writing a row into a sheet fails; `cut` writes the same row cut to its first columns. -/
inductive RowFails (cut : Nat → Build Sheet Unit) (s : Sheet) (e : Failure) :
    Progress Sheet → Prop
  | unread (h : BeforeRow e) : RowFails cut s e ⟨s, #[]⟩
  | stopped {j : Nat} {reached q : Progress Sheet} (he : ¬ BeforeRow e)
      (hcut : cut j ⟨s, #[]⟩ = .ok () reached) (hstops : cut (j + 1) ⟨s, #[]⟩ = .error e q)
      (h : s.HalfWritten reached.state q.state (j + 1)) : RowFails cut s e q

/-- A row that has been read and reserved stops at a column, and not for a reason that comes
before. -/
theorem rowFails_of_loop {β : Type} {cut : Nat → Build Sheet Unit}
    {step : Nat → β → Build Sheet Unit} {members : List β} (writable : β → Prop)
    (hs : (Sheet.empty title first).Grows s)
    (hrun : ∀ n, cut n ⟨s, #[]⟩ = forEach step 0 (members.take n) ⟨s.reserveRow, #[]⟩)
    (hdone : ∀ n reached, cut n ⟨s, #[]⟩ = .ok () reached →
      ∃ d : Draft, d.entries.length ≤ n ∧ RowWritten ⟨s, #[]⟩ d reached)
    (hstep : ∀ i b p, Ends (step i b) p (fun _ _ => True)
      (Refused s.nextRow (i + 1) p (writable b)))
    (hkind : ∀ i b, FailsWith (fun found => ¬ BeforeRow (.build found)) (step i b))
    (h : forEach step 0 members ⟨s.reserveRow, #[]⟩ = .error e q) : RowFails cut s e q := by
  obtain ⟨j, b, reached, hbefore, hfails, hstops⟩ := exists_cut_of_error h
  rw [← hrun] at hbefore hstops
  have he : ¬ BeforeRow e := by
    cases e with
    | build found => exact (hkind j b).of_error hfails
    | rowOutOfRange | untitled => exact nofun
  obtain ⟨d, hd, hwritten⟩ := hdone j reached hbefore
  exact .stopped he hbefore hstops
    (((hstep j b reached).of_error hfails).halfWritten hs hd hwritten)

theorem run_writeHeader {path : Text} {node : Json} {plan : HeaderPlan}
    (h : HeaderPlan.read path node = .ok plan) (s : Sheet) :
    writeHeader path node ⟨s, #[]⟩
      = forEach (writeLabel s.nextRow plan.style (fieldPath path Field.columns)) 0 plan.columns
          ⟨s.reserveRow, #[]⟩ := by
  rw [writeHeader, h]
  rfl

theorem run_writeRow {path : Text} {node : Json} {plan : RowPlan}
    (h : RowPlan.read path node = .ok plan) (s : Sheet) :
    writeRow path node ⟨s, #[]⟩
      = forEach (writeColumn s.nextRow plan.style) 0 plan.columns ⟨s.reserveRow, #[]⟩ := by
  rw [writeRow, h]
  rfl

theorem rowFails_writeHeader (hs : (Sheet.empty title first).Grows s) {path : Text} {node : Json}
    (h : writeHeader path node ⟨s, #[]⟩ = .error e q) :
    RowFails (fun n => writeHeader path (node.cutHeader n)) s e q := by
  cases hread : HeaderPlan.read path node with
  | error found =>
    rw [writeHeader, hread] at h
    obtain ⟨rfl, rfl⟩ := EStateM.Result.error.inj h
    refine .unread ?_
    rcases fault_of_readHeader hread with rfl | rfl | ⟨style, rfl⟩
    · exact .notObject path
    · exact .notArray _
    · exact .style style
  | ok plan =>
    rw [run_writeHeader hread] at h
    -- a header that was cut is read with the first labels
    have hcut : ∀ n, HeaderPlan.read path (node.cutHeader n)
        = .ok ⟨plan.style, plan.columns.take n⟩ := by
      intro n
      rw [HeaderPlan.read_cutHeader, hread]
      rfl
    refine rowFails_of_loop Json.IsLabel hs (fun n => run_writeHeader (hcut n) s) ?_ ?_ ?_ h
    · intro n reached hreached
      obtain ⟨found, hfound, hwritten⟩ := (ends_writeHeader path (node.cutHeader n)).of_ok hreached
      obtain rfl := Except.ok.inj ((hcut n).symm.trans hfound)
      refine ⟨_, ?_, hwritten⟩
      rw [HeaderPlan.draft, List.length_map]
      exact List.length_take_le n plan.columns
    · intro i label p
      exact (ends_writeLabel s.nextRow p plan.style _ i label).mono (fun _ _ _ => trivial)
        fun _ _ hrefused => hrefused
    · intro i label
      exact failsWith_writeLabel nofun nofun _ _ label

theorem rowFails_writeRow (hs : (Sheet.empty title first).Grows s) {path : Text} {node : Json}
    (h : writeRow path node ⟨s, #[]⟩ = .error e q) :
    RowFails (fun n => writeRow path (node.cutRow n)) s e q := by
  cases hread : RowPlan.read path node with
  | error found =>
    rw [writeRow, hread] at h
    obtain ⟨rfl, rfl⟩ := EStateM.Result.error.inj h
    refine .unread ?_
    rcases fault_of_readRow hread with rfl | ⟨style, rfl⟩
    · exact .notObject path
    · exact .style style
  | ok plan =>
    rw [run_writeRow hread] at h
    have hcut : ∀ n, RowPlan.read path (node.cutRow n)
        = .ok ⟨plan.style, plan.columns.take n⟩ := by
      intro n
      rw [RowPlan.read_cutRow, hread]
      rfl
    refine rowFails_of_loop (fun column => column.2.Writable) hs
      (fun n => run_writeRow (hcut n) s) ?_ ?_ ?_ h
    · intro n reached hreached
      obtain ⟨found, hfound, hwritten⟩ := (ends_writeRow path (node.cutRow n)).of_ok hreached
      obtain rfl := Except.ok.inj ((hcut n).symm.trans hfound)
      refine ⟨_, ?_, hwritten⟩
      rw [RowPlan.draft, List.length_map]
      exact List.length_take_le n plan.columns
    · intro i column p
      exact (ends_writeValue s.nextRow (i + 1) p plan.style column.1 column.2).mono
        (fun _ _ _ => trivial) fun _ _ hrefused => hrefused
    · intro i column
      exact failsWith_writeValue nofun (fun _ => nofun) nofun _ _ _ _

end Build

/-! ### Contexts -/

namespace Session

variable {s : Session} {n i : Nat} {sheet : Sheet} {q : Progress Sheet} {e : Failure}
  {step : Build Sheet Unit}

theorem onContext_of_ok (hi : s.contexts[n]? = some i) (hsheet : s.workbook.sheets[i]? = some sheet)
    (h : step ⟨sheet, #[]⟩ = .ok () q) :
    s.onContext n step (fun _ => .done)
      = (⟨⟨s.workbook.sheets.set i q.state⟩, s.contexts⟩, .done) := by
  rw [onContext, hi]
  dsimp only
  rw [hsheet]
  dsimp only
  rw [h]

theorem onContext_of_error (hi : s.contexts[n]? = some i)
    (hsheet : s.workbook.sheets[i]? = some sheet) (h : step ⟨sheet, #[]⟩ = .error e q) :
    s.onContext n step (fun _ => .done)
      = (⟨⟨s.workbook.sheets.set i q.state⟩, s.contexts⟩, .failed e) := by
  rw [onContext, hi]
  dsimp only
  rw [hsheet]
  dsimp only
  rw [h]

/-- What fails on a context has failed on its sheet. -/
theorem exists_error_of_onContext
    (h : (s.onContext n step (fun _ => .done)).2 = .failed e) :
    ∃ (i : Nat) (sheet : Sheet) (q : Progress Sheet), s.contexts[n]? = some i ∧
      s.workbook.sheets[i]? = some sheet ∧ step ⟨sheet, #[]⟩ = .error e q := by
  cases hi : s.contexts[n]? with
  | none =>
    rw [onContext, hi] at h
    cases h
  | some i =>
    cases hsheet : s.workbook.sheets[i]? with
    | none =>
      rw [onContext, hi] at h
      dsimp only at h
      rw [hsheet] at h
      cases h
    | some sheet =>
      cases hrun : step ⟨sheet, #[]⟩ with
      | ok u q =>
        rw [onContext_of_ok hi hsheet hrun] at h
        cases h
      | error found q =>
        rw [onContext_of_error hi hsheet hrun] at h
        obtain rfl := Reply.failed.inj h
        exact ⟨i, sheet, q, rfl, hsheet, hrun⟩

/-- The sheet of a context that has been put in place. -/
theorem contextSheet?_set (hi : s.contexts[n]? = some i)
    (hsheet : s.workbook.sheets[i]? = some sheet) (new : Sheet) :
    contextSheet? ⟨⟨s.workbook.sheets.set i new⟩, s.contexts⟩ n = some new :=
  contextSheet?_eq_some_iff.mpr
    ⟨i, hi, List.getElem?_set_self (List.getElem?_eq_some_iff.mp hsheet).1⟩

/-- An action on a context stops at a column: all that it leaves is a half-written row in the sheet
of the context. -/
structure StopsInRow (s : Session) (a : Action) (n : Nat) (e : Failure) (column : Nat) : Prop where
  pos : 1 ≤ column
  /-- The row stops there also if it is cut behind the column. -/
  stops : s.perform (a.cut column) = ((s.perform a).1, .failed e)
  /-- If it is cut in front of the column, it is done; and what has been left is that, but for the
  column itself. -/
  half : ∃ u sheet cut sheet', s.perform (a.cut (column - 1)) = (u, .done) ∧
    s.contextSheet? n = some sheet ∧ u.contextSheet? n = some cut ∧
      (s.perform a).1.contextSheet? n = some sheet' ∧ sheet.HalfWritten cut sheet' column
  contexts : (s.perform a).1.contexts = s.contexts
  /-- No other sheet has changed. -/
  elsewhere : ∀ i : Nat, s.contexts[n]? ≠ some i →
    (s.perform a).1.workbook.sheets[i]? = s.workbook.sheets[i]?

/-- What an action that writes a row has done when it fails. -/
structure FailsInRow (s : Session) (a : Action) (n : Nat) (e : Failure) : Prop where
  /-- What is found before the row is reserved leaves everything as it was. -/
  unread : BeforeRow e → (s.perform a).1 = s
  /-- Anything else stops at a column. -/
  stopped : ¬ BeforeRow e → ∃ column, s.StopsInRow a n e column

theorem failsInRow_of_rowFails {a : Action} (cut : Nat → Build Sheet Unit)
    (ha : s.perform a = s.onContext n step fun _ => .done)
    (hcut : ∀ k, s.perform (a.cut k) = s.onContext n (cut k) fun _ => .done)
    (hfails : ∀ (i : Nat) sheet q, s.workbook.sheets[i]? = some sheet →
      step ⟨sheet, #[]⟩ = .error e q → Build.RowFails cut sheet e q)
    (h : (s.perform a).2 = .failed e) : s.FailsInRow a n e := by
  rw [ha] at h
  obtain ⟨i, sheet, q, hi, hsheet, herror⟩ := exists_error_of_onContext h
  have hperform := ha.trans (onContext_of_error hi hsheet herror)
  cases hfails i sheet q hsheet herror with
  | unread he =>
    refine ⟨fun _ => ?_, fun hnot => absurd he hnot⟩
    -- the sheet is put back as it was
    obtain ⟨hlt, rfl⟩ := List.getElem?_eq_some_iff.mp hsheet
    rw [hperform, List.set_getElem_self hlt]
  | @stopped j reached q he hdone hstops hhalf =>
    refine ⟨fun hbefore => absurd hbefore he, fun _ => ⟨j + 1, ?_⟩⟩
    have hreached := (hcut j).trans (onContext_of_ok hi hsheet hdone)
    constructor
    case pos => exact Nat.le_add_left 1 j
    case stops => rw [hcut, onContext_of_error hi hsheet hstops, hperform]
    case half =>
      refine ⟨_, sheet, reached.state, q.state, hreached, ?_, ?_, ?_, hhalf⟩
      · exact contextSheet?_eq_some_iff.mpr ⟨i, hi, hsheet⟩
      · exact contextSheet?_set hi hsheet _
      · rw [hperform]
        exact contextSheet?_set hi hsheet _
    case contexts => rw [hperform]
    case elsewhere =>
      intro k hk
      rw [hperform]
      refine List.getElem?_set_ne fun heq => hk ?_
      rw [hi, heq]

end Session

/-- The actions that write a row into the sheet of a context. -/
inductive Action.WritesRow (n : Nat) : Action → Prop
  | header (path : Text) (node : Json) : WritesRow n (.header n path node)
  | row (path : Text) (node : Json) : WritesRow n (.row n path node)

/-- **A row that could not be written** has changed nothing or is half written, in every context of
a session. -/
theorem Session.failed_row (actions : List Action) {n : Nat} {a : Action} (ha : a.WritesRow n)
    {e : Failure} (h : ((run actions).perform a).2 = .failed e) :
    (run actions).FailsInRow a n e := by
  cases ha with
  | header path node =>
    refine failsInRow_of_rowFails (fun k => Build.writeHeader path (node.cutHeader k)) rfl
      (fun k => rfl) ?_ h
    intro i sheet q hsheet herror
    obtain ⟨first, hgrows⟩ := exists_grows_run hsheet
    exact Build.rowFails_writeHeader hgrows herror
  | row path node =>
    refine failsInRow_of_rowFails (fun k => Build.writeRow path (node.cutRow k)) rfl
      (fun k => rfl) ?_ h
    intro i sheet q hsheet herror
    obtain ⟨first, hgrows⟩ := exists_grows_run hsheet
    exact Build.rowFails_writeRow hgrows herror

/-- A row with a column, a style and a column that cannot be written. -/
def brokenRow : Json :=
  .obj [("a", .int 1), ("style", .obj [("bold", .bool true)]), ("b", .str "\x01")]

/-- The row stops at its second column, in a context that was opened at the third row. -/
theorem Session.failed_row_broken :
    Action.WritesRow 0 (.row 0 "rows" brokenRow) ∧
      ((run [.context 3]).perform (.row 0 "rows" brokenRow)).2
        = .failed (.build (.illegalText "b")) ∧
      ∃ column, (run [.context 3]).StopsInRow (.row 0 "rows" brokenRow) 0
        (.build (.illegalText "b")) column := by
  have ha : Action.WritesRow 0 (.row 0 "rows" brokenRow) := .row "rows" brokenRow
  have h : ((run [.context 3]).perform (.row 0 "rows" brokenRow)).2
      = .failed (.build (.illegalText "b")) := by decide
  exact ⟨ha, h, (failed_row [.context 3] ha h).stopped nofun⟩

end Gridwork
