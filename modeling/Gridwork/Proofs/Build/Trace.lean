import Gridwork.Proofs.Build.Contents
import Mathlib.Algebra.GroupWithZero.Nat

/-!
# What building a workbook reports

Nothing is dropped silently. What is logged while a request is built is laid down by the request
itself (`Json.requestLog`): a warning for every key beside the workbook; for every sheet a warning
for each value of its data rows that has no place in a cell, and then a message that the sheet is
complete. `buildWorkbook_log` says that a workbook that was built came with exactly these messages
in this order.

It says as well that the warnings about values are as many as the cells that hold an empty text in
place of such a value (`SheetForm.blanks`). For that the cells of a sheet are counted row by row
beside what each row reports (`SheetForm.countP_events_eq_blanks`).
-/

namespace Gridwork

/-- An event as it is logged. -/
def Event.line (e : Event) : Log.Level × Text := (e.level, e.message)

/-- Whether an event tells of a value that has no place in a cell. -/
def Event.isBlanking : Event → Bool
  | .blankedValue _ _ => true
  | _ => false

namespace Json

/-! ### The log that a request calls for -/

/-- A warning about a value that has no place in a cell. -/
def blankWarning (key type : Text) : Log.Level × Text :=
  (.warning, "Field \"" ++ key ++ "\" holds a " ++ type ++ " value; writing an empty text cell")

/-- What is logged about a value of a data row. -/
def valueLog (key : Text) : Json → List (Log.Level × Text)
  | .obj _ => [blankWarning key "dict"]
  | .arr _ => [blankWarning key "list"]
  | _ => []

/-- What is logged about a data row: its values in their own order, without its style. -/
def rowLog : Json → List (Log.Level × Text)
  | .obj entries => (Entries.columns entries).flatMap fun column => column.2.valueLog column.1
  | _ => []

/-- The name of a sheet. -/
def sheetName (sheet : Json) : Text :=
  match sheet.part Field.name with
  | .str name => name
  | _ => ""

/-- What is logged about a sheet: its rows, and then that it is complete. -/
def sheetLog (sheet : Json) : List (Log.Level × Text) :=
  sheet.rowNodes.flatMap rowLog ++
    [(.debug, "Built sheet \"" ++ sheet.sheetName ++ "\" (" ++ toString (1 + sheet.rowNodes.length)
      ++ " rows)")]

/-- What is logged about an entry of a request. -/
def entryLog (entry : Text × Json) : List (Log.Level × Text) :=
  if entry.1 = Field.workbook then entry.2.sheetNodes.flatMap sheetLog
  else [(.warning, "Top-level key \"" ++ entry.1 ++ "\" has no handler; skipping it")]

/-- What is logged about a request. -/
def requestLog : Json → List (Log.Level × Text)
  | .obj entries => entries.flatMap entryLog
  | _ => []

theorem map_line_blankings (key : Text) (v : Json) :
    (v.blankings key).map Event.line = v.valueLog key := by
  cases v <;> rfl

theorem DescribesRow.map_line_events {node : Json} {plan : RowPlan} (h : node.DescribesRow plan) :
    plan.draft.events.map Event.line = node.rowLog := by
  obtain ⟨-, -⟩ := h
  simp only [RowPlan.draft, Draft.events, List.flatMap_map, List.map_flatMap, map_line_blankings]
  rfl

theorem DescribesRows.map_line_events {node : Json} {plans : List RowPlan}
    (h : node.DescribesRows plans) :
    (plans.flatMap fun plan => plan.draft.events.map Event.line) = node.items.flatMap rowLog := by
  cases h with
  | null => rfl
  | arr h => exact flatMap_eq_of_forall₂ (h.flip.imp fun _ _ h => h.map_line_events)

theorem DescribesRows.length_eq {node : Json} {plans : List RowPlan}
    (h : node.DescribesRows plans) : plans.length = node.items.length := by
  cases h with
  | null => rfl
  | arr h => exact h.length_eq.symm

/-- **What is logged about a sheet** that is built. -/
theorem DescribesSheet.map_line_events {node : Json} {form : SheetForm}
    (h : node.DescribesSheet form) : form.events.map Event.line = node.sheetLog := by
  obtain @⟨entries, form, hname, -, -, -, hrows⟩ := h
  have hsheetName : sheetName (.obj entries) = form.name := by rw [sheetName, part, hname]
  have hheader : form.header.draft.events = [] := by
    simp [HeaderPlan.draft, Draft.events, List.flatMap_map]
  have hcount : (form.rows.length : Int) + 1 = (1 + (rowNodes (.obj entries)).length : Nat) := by
    rw [hrows.length_eq, Nat.add_comm 1]
    rfl
  rw [SheetForm.events, SheetForm.drafts, List.flatMap_cons, hheader, List.nil_append,
    List.map_append, List.flatMap_map, List.map_flatMap, hrows.map_line_events, hcount, sheetLog,
    hsheetName]
  rfl

theorem DescribesWorkbook.map_line_events {node : Json} {forms : List SheetForm}
    (h : node.DescribesWorkbook forms) :
    (forms.flatMap SheetForm.events).map Event.line = node.sheetNodes.flatMap sheetLog := by
  obtain @⟨entries, name, nodes, forms, -, hsheets, -, h⟩ := h
  have hnodes : sheetNodes (.obj entries) = nodes := by rw [sheetNodes, part, hsheets, items]
  rw [hnodes, List.map_flatMap]
  exact flatMap_eq_of_forall₂ (h.flip.imp fun _ _ h => h.map_line_events)

/-- **What is logged about a request** that is built. -/
theorem DescribesRequest.map_line_requestEvents {request : Json} {forms : List SheetForm}
    (hw : request.WellFormed) (h : request.DescribesRequest forms) :
    (request.requestEvents forms).map Event.line = request.requestLog := by
  obtain @⟨entries, workbook, forms, hworkbook, h⟩ := h
  have hdistinct := ((wellFormed_obj_iff entries).mp hw).1
  rw [requestEvents, List.map_flatMap]
  refine List.flatMap_congr fun entry hentry => ?_
  unfold entryEvents entryLog
  by_cases hkey : entry.1 = Field.workbook
  · -- no other entry has the key of the workbook
    rw [← hkey] at hworkbook
    have heq : entry.2 = workbook :=
      Option.some.inj (((Entries.get?_eq_some_iff hdistinct).mpr hentry).symm.trans hworkbook)
    rw [if_pos hkey, if_pos hkey, heq]
    exact h.map_line_events
  · rw [if_neg hkey, if_neg hkey]
    rfl

end Json

/-! ### Warnings and empty cells -/

/-- Whether a value has no place in a cell. -/
def Json.isNested : Json → Bool
  | .obj _ | .arr _ => true
  | _ => false

theorem Json.countP_blankings (key : Text) (v : Json) :
    (v.blankings key).countP Event.isBlanking = if v.isNested = true then 1 else 0 := by
  cases v <;> rfl

theorem Json.content_of_isNested {v : Json} (h : v.isNested = true) : v.content = .text "" := by
  cases v <;> first | rfl | cases h

/-- Whether a cell holds an empty text where a form has a value that has no place in a cell. -/
def SheetForm.isBlank (form : SheetForm) (c : Cell) : Bool :=
  c.content == .text "" && (form.value? c.row c.column).any Json.isNested

/-- The number of such cells of a sheet. -/
def SheetForm.blanks (form : SheetForm) (s : Sheet) : Nat := s.cells.toList.countP form.isBlank

theorem Sheet.cells_addRows (title : Text) (drafts : List Draft) :
    ((empty title 1).addRows drafts).cells.toList
      = drafts.zipIdx.flatMap fun d => d.1.cells (d.2 + 1) := by
  induction drafts using List.reverseRecOn with
  | nil => rfl
  | append_singleton drafts d ih =>
    -- the last draft goes into the row that the cursor has reached
    have hrow : ((empty title 1).addRows drafts).nextRow.toNat = drafts.length + 1 := by
      simp only [addRows_nextRow, empty]
      omega
    rw [addRows_append_singleton, addRow_cells, ih, hrow]
    simp [List.zipIdx_append]

namespace SheetForm

variable {form : SheetForm}

/-- The labels of a header have their place. -/
theorem countP_header (h : ∀ v ∈ form.header.columns, v.IsLabel) :
    (form.header.draft.cells 1).countP form.isBlank = 0 := by
  rw [List.countP_eq_zero]
  intro c hc
  obtain ⟨j, entry, hentry, rfl⟩ := Draft.mem_cells_iff.mp hc
  obtain ⟨v, hv, rfl⟩ : ∃ v, form.header.columns[j]? = some v ∧ _ := by
    simpa [HeaderPlan.draft] using hentry
  have hlabel := h v (List.mem_of_getElem? hv)
  have hnested : v.isNested = false := by cases v <;> first | rfl | cases hlabel
  simp [isBlank, value?, hv, hnested]

/-- In a data row the empty texts that stand for nested values are as many as these. -/
theorem countP_row {k : Nat} {row : RowPlan} (h : form.rows[k]? = some row) :
    (row.draft.cells (k + 2)).countP form.isBlank
      = row.columns.countP fun column => column.2.isNested := by
  have hindexed : (row.columns.countP fun column => column.2.isNested)
      = row.columns.zipIdx.countP fun column => column.1.2.isNested := by
    conv_lhs => rw [← List.zipIdx_map_fst 0 row.columns]
    rw [List.countP_map]
    rfl
  rw [hindexed, Draft.cells, RowPlan.draft, List.zipIdx_map, List.map_map, List.countP_map]
  refine List.countP_congr ?_
  rintro ⟨column, j⟩ hmem
  have hcolumn := List.mem_zipIdx_iff_getElem?.mp hmem
  have hvalue : form.value? (k + 2) (j + 1) = some column.2 := by simp [value?, h, hcolumn]
  change form.isBlank ⟨k + 2, j + 1, column.2.content, row.style⟩ = true ↔ _
  rw [isBlank, hvalue, Option.any_some, Bool.and_eq_true, beq_iff_eq]
  exact and_iff_right_of_imp Json.content_of_isNested

/-- A data row reports as many. -/
theorem countP_events_row (row : RowPlan) : row.draft.events.countP Event.isBlanking
    = row.columns.countP fun column => column.2.isNested := by
  rw [Draft.events, RowPlan.draft, List.flatMap_map]
  induction row.columns with
  | nil => rfl
  | cons column columns ih =>
    rw [List.flatMap_cons, List.countP_append, List.countP_cons, ih, Json.countP_blankings,
      Nat.add_comm]

theorem countP_events_eq_blanks (h : ∀ v ∈ form.header.columns, v.IsLabel) (title : Text) :
    form.events.countP Event.isBlanking = form.blanks (form.sheet title) := by
  have hdrafts : ∀ d ∈ form.drafts.zipIdx, d.1.events.countP Event.isBlanking
      = (d.1.cells (d.2 + 1)).countP form.isBlank := by
    rintro ⟨d, k⟩ hd
    have hk := List.mem_zipIdx_iff_getElem?.mp hd
    -- the first draft is the header, the others are the data rows
    cases k with
    | zero =>
      obtain rfl := Option.some.inj hk
      rw [countP_header h]
      simp [HeaderPlan.draft, Draft.events, List.flatMap_map]
    | succ k =>
      rw [drafts, List.getElem?_cons_succ, List.getElem?_map] at hk
      obtain ⟨row, hrow, rfl⟩ := Option.map_eq_some_iff.mp hk
      rw [countP_row hrow, countP_events_row]
  have hindexed : form.drafts.flatMap Draft.events
      = form.drafts.zipIdx.flatMap fun d => d.1.events := by
    conv_lhs => rw [← List.zipIdx_map_fst 0 form.drafts]
    rw [List.flatMap_map]
  rw [blanks, sheet, Sheet.cells_addRows, List.countP_flatMap, events, List.countP_append, hindexed,
    List.countP_flatMap]
  exact congrArg List.sum (List.map_congr_left hdrafts)

end SheetForm

/-- The labels of a sheet that is described can be written. -/
theorem Json.DescribesSheet.isLabel {node : Json} {form : SheetForm}
    (h : node.DescribesSheet form) : ∀ v ∈ form.header.columns, v.IsLabel := by
  obtain ⟨-, -, -, hheader, -⟩ := h
  exact (HeaderPlan.writable_draft_iff _).mp ((Json.describesHeader_iff "").mp hheader).2

theorem Workbook.forall₂_addForms (forms : List SheetForm) :
    List.Forall₂ (fun form s => ∃ title, s = form.sheet title) forms
      (empty.addForms forms).sheets := by
  induction forms using List.reverseRecOn with
  | nil => exact .nil
  | append_singleton forms form ih =>
    rw [addForms_append_singleton, addSheet]
    exact List.rel_append ih (.cons ⟨_, rfl⟩ .nil)

theorem countP_events_of_forall₂ {forms : List SheetForm} {sheets : List Sheet}
    (hlabels : ∀ form ∈ forms, ∀ v ∈ form.header.columns, v.IsLabel)
    (h : List.Forall₂ (fun form s => ∃ title, s = form.sheet title) forms sheets) :
    (forms.flatMap SheetForm.events).countP Event.isBlanking
      = (List.zipWith SheetForm.blanks forms sheets).sum := by
  induction h with
  | nil => rfl
  | @cons form s forms sheets hs _ ih =>
    obtain ⟨title, rfl⟩ := hs
    obtain ⟨hform, hforms⟩ := List.forall_mem_cons.mp hlabels
    rw [List.flatMap_cons, List.countP_append, List.zipWith_cons_cons, List.sum_cons, ih hforms,
      SheetForm.countP_events_eq_blanks hform]

/-- Beside the workbook no value is reported. -/
theorem countP_entryEvents_eq_zero {entries : Json.Entries} {forms : List SheetForm}
    (h : Field.workbook ∉ entries.map Prod.fst) :
    (entries.flatMap (Json.entryEvents forms)).countP Event.isBlanking = 0 := by
  rw [List.countP_eq_zero]
  intro e he
  obtain ⟨entry, hentry, he⟩ := List.mem_flatMap.mp he
  have hkey : entry.1 ≠ Field.workbook := fun hkey => h (hkey ▸ List.mem_map_of_mem hentry)
  rw [Json.entryEvents, if_neg hkey, List.mem_singleton] at he
  rw [he]
  exact Bool.false_ne_true

/-- As many values are reported to have no place in a cell as there are empty texts for them. -/
theorem countP_requestEvents {request : Json} {forms : List SheetForm} (hw : request.WellFormed)
    (h : request.DescribesRequest forms) :
    (request.requestEvents forms).countP Event.isBlanking
      = (List.zipWith SheetForm.blanks forms (Workbook.empty.addForms forms).sheets).sum := by
  obtain @⟨entries, node, forms, hworkbook, h⟩ := h
  have hdistinct := ((Json.wellFormed_obj_iff entries).mp hw).1
  have hlabels : ∀ form ∈ forms, ∀ v ∈ form.header.columns, v.IsLabel := by
    obtain ⟨-, -, -, h⟩ := h
    intro form hform
    obtain ⟨node, -, hnode⟩ := exists_mem_left_of_forall₂ h hform
    exact hnode.isLabel
  -- the workbook is one entry, and the others report no value
  obtain ⟨before, behind, rfl⟩ :=
    List.append_of_mem ((Json.Entries.get?_eq_some_iff hdistinct).mp hworkbook)
  rw [Json.Entries.Distinct, List.map_append, List.map_cons, List.nodup_append,
    List.nodup_cons] at hdistinct
  have hbefore : Field.workbook ∉ before.map Prod.fst := fun hmem =>
    hdistinct.2.2 _ hmem _ List.mem_cons_self rfl
  rw [Json.requestEvents, List.flatMap_append, List.flatMap_cons, List.countP_append,
    List.countP_append, countP_entryEvents_eq_zero hbefore,
    countP_entryEvents_eq_zero hdistinct.2.1.1, Nat.zero_add, Nat.add_zero, Json.entryEvents,
    if_pos rfl]
  exact countP_events_of_forall₂ hlabels (Workbook.forall₂_addForms forms)

/-- **What building a workbook reports**: what its request calls for, in the order of the request,
and as many values without a place in a cell as there are empty texts for them. -/
theorem buildWorkbook_log {request : Json} {w : Workbook} (hw : request.WellFormed)
    (h : (buildWorkbook request).outcome = .ok w) :
    (buildWorkbook request).events.map Event.line = request.requestLog ∧
      ∃ forms, request.DescribesRequest forms ∧ w.Shows forms ∧
        (buildWorkbook request).events.countP Event.isBlanking
          = (List.zipWith SheetForm.blanks forms w.sheets).sum := by
  unfold buildWorkbook at h ⊢
  cases hbuild : Build.buildRequest request ⟨.empty, #[]⟩ with
  | error e p =>
    rw [hbuild] at h
    cases h
  | ok a p =>
    rw [hbuild] at h
    obtain rfl : p.state = w := Except.ok.inj h
    obtain ⟨forms, hforms, -, hgrows, rfl⟩ := (Build.ends_buildRequest hw).of_ok hbuild
    exact ⟨hforms.map_line_requestEvents hw, forms, hforms, Workbook.shows_addForms hgrows,
      countP_requestEvents hw hforms⟩

/-- A request with keys on both sides of the workbook, nested values in a styled row, and an empty
row. -/
def nestedRequest : Json :=
  .obj [("note", .null), ("workbook", .obj [
    ("name", .str "Q1"),
    ("sheets", .arr [
      .obj [("name", .str "Data"),
        ("header", .obj [("columns", .arr [.str "id", .str "tags"])]),
        ("dados", .arr [.obj [("id", .obj []), ("estilo", .obj [("bold", .bool true)]),
          ("tags", .arr [.int 1])], .obj [], .obj [("id", .str "")]])],
      .obj [("name", .str "data"), ("header", .obj [("columns", .arr [])])]])]),
    ("version", .int 2)]

/-- Two values of the first row have no place in a cell; the empty text of the last row is none of
them. -/
theorem buildWorkbook_log_nested : nestedRequest.WellFormed ∧
    ∃ w, (buildWorkbook nestedRequest).outcome = .ok w ∧
      (buildWorkbook nestedRequest).events.map Event.line =
        ([(.warning, "Top-level key \"note\" has no handler; skipping it"),
          (.warning, "Field \"id\" holds a dict value; writing an empty text cell"),
          (.warning, "Field \"tags\" holds a list value; writing an empty text cell"),
          (.debug, "Built sheet \"Data\" (4 rows)"), (.debug, "Built sheet \"data\" (1 rows)"),
          (.warning, "Top-level key \"version\" has no handler; skipping it")]
            : List (Log.Level × Text)) ∧
      ∃ forms, nestedRequest.DescribesRequest forms ∧
        (List.zipWith SheetForm.blanks forms w.sheets).sum = 2 := by
  have hwell : nestedRequest.WellFormed := by decide
  have hbuilt : (match (buildWorkbook nestedRequest).outcome with
      | .ok _ => true
      | .error _ => false) = true := by decide +kernel
  have hcount : (buildWorkbook nestedRequest).events.countP Event.isBlanking = 2 := by
    decide +kernel
  cases h : (buildWorkbook nestedRequest).outcome with
  | error e =>
    rw [h] at hbuilt
    cases hbuilt
  | ok w =>
    obtain ⟨hlog, forms, hforms, -, hblanks⟩ := buildWorkbook_log hwell h
    rw [hcount] at hblanks
    refine ⟨hwell, w, rfl, hlog.trans ?_, forms, hforms, hblanks.symm⟩
    decide +kernel

end Gridwork
