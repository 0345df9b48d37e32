import Gridwork.Proofs.Build.Run

/-!
# Building stops at the first failure

The sheets of a request are built in their order, and so are the rows of a sheet. Building stops at
the first that fails, and nothing behind it has been looked at. `buildWorkbook_inOrder` says what
follows for a request and another that differs from it behind such a place only:

* both fail with the same error and have reported the same events (`Json.FailsFast.sheets`), also if
  they differ in the later rows of the sheet that fails (`Json.FailsFast.rows`);
* the sheets before the one that fails make a workbook by themselves (`Json.FailsFast.before`);
* the first sheets of a workbook that is built are what their nodes alone are built into
  (`Json.KeepsPrefixes`).

The sheets of a workbook are not independent: the title of a sheet depends on all titles before it.
What carries the proofs is that a sheet is begun from the progress that the sheets before it have
left (`Json.ComesToSheet`), and that this progress is the same for both requests.
-/

namespace Gridwork

open Build

/-! ### Where building stops -/

namespace Json

/-- Building comes to sheet `i` of a request: the workbook can be read, and the sheets before this
one are built. -/
structure ComesToSheet (request : Json) (i : Nat) (sheet : Json) (p : Progress Workbook) :
    Prop where
  read : readSheets (request.part Field.workbook) = .ok request.sheets
  sheet : request.sheets[i]? = some sheet
  built : forEach (buildSheetAt sheetsPath) 0 (request.sheets.take i) request.beforeWorkbook
    = .ok () p

/-- Building a request stops at sheet `i`. -/
def StopsAtSheet (request : Json) (i : Nat) (e : Failure) : Prop :=
  ∃ sheet p q, request.ComesToSheet i sheet p ∧ buildSheetAt sheetsPath i sheet p = .error e q

/-- Building a sheet stops at data row `k`: the sheet is read and titled, its header and the rows
before this one are written, and writing this one fails. -/
structure SheetStopsAtRow (path : Text) (sheet : Json) (k : Nat) (p : Progress Workbook)
    (e : Failure) (q : Progress Sheet) : Prop where
  stops : ∃ plan title headed, SheetPlan.read path sheet = .ok plan ∧
    Title.choose p.state.titles plan.name = .ok title ∧
    writeSheetHeader path plan ⟨.empty title 1, p.events⟩ = .ok () headed ∧
    StopsAt (fun j row => writeRow (joinIndex (fieldPath path Field.rows) j) row) sheet.rowNodes k
      headed e q

/-- Building a request stops at data row `k` of sheet `i`. -/
def StopsAtRow (request : Json) (i k : Nat) (e : Failure) : Prop :=
  ∃ sheet p q, request.ComesToSheet i sheet p ∧
    SheetStopsAtRow (joinIndex sheetsPath i) sheet k p e q

end Json

/-! ### A sheet that stops at a row -/

/-- The other rows change the rows of the plan and nothing else. -/
theorem SheetPlan.read_withRows {path : Text} {sheet : Json} {plan : SheetPlan}
    (hread : SheetPlan.read path sheet = .ok plan) (hpresent : plan.rows ≠ .null)
    (rows : List Json) :
    SheetPlan.read path (sheet.withRows rows) = .ok { plan with rows := .arr rows } := by
  cases sheet with
  | null | bool | int | float | str | arr => cases hread
  | obj entries =>
    have hname := Json.Entries.field_exchange_of_ne Field.rows Field.name (by decide) (by decide)
      (by decide) (.arr rows) entries
    have hheader := Json.Entries.field_exchange_of_ne Field.rows Field.header (by decide)
      (by decide) (by decide) (.arr rows) entries
    rw [Json.withRows, Json.exchange_obj]
    dsimp only [SheetPlan.read] at hread ⊢
    rw [hname, hheader]
    cases hvalue : Json.Entries.field entries Field.name with
    | null | bool | int | float | arr | obj =>
      rw [hvalue] at hread
      cases hread
    | str name =>
      rw [hvalue] at hread
      dsimp only at hread ⊢
      by_cases hempty : name.isEmpty = true
      · rw [if_pos hempty] at hread
        cases hread
      · rw [if_neg hempty] at hread ⊢
        obtain rfl := Except.ok.inj hread
        rw [Json.Entries.field_exchange_self hpresent]

/-- A title that can be chosen is chosen without a change to the workbook. -/
theorem chooseTitle_of_ok {path name title : Text} {p : Progress Workbook}
    (htitle : Title.choose p.state.titles name = .ok title) :
    chooseTitle path name p = .ok title p := by
  rw [chooseTitle, bind_of_ok (run_get p), htitle]
  rfl

namespace Json.SheetStopsAtRow

variable {path : Text} {sheet : Json} {k : Nat} {p : Progress Workbook} {e : Failure}
  {q : Progress Sheet}

/-- A sheet that stops at a row is added as far as it was filled. -/
theorem run {i : Nat} (h : SheetStopsAtRow (joinIndex path i) sheet k p e q) :
    buildSheetAt path i sheet p = .error e ⟨p.state.addSheet q.state, q.events⟩ := by
  obtain ⟨plan, title, headed, hread, htitle, hheader, hstops⟩ := h.stops
  have hitems := rowNodes_of_read hread
  have hrows : writeSheetRows (joinIndex path i) plan headed = .error e q := by
    have hlength := hstops.lt_length
    have hrun := hstops.run
    rw [hitems] at hlength hrun
    unfold writeSheetRows
    -- nothing but an array has a row to stop at
    cases hvalue : plan.rows with
    | arr rows =>
      rw [hvalue] at hrun
      exact hrun
    | null | bool | int | float | str | obj =>
      rw [hvalue] at hlength
      exact absurd hlength (Nat.not_lt_zero k)
  have hfill : writeSheet (joinIndex path i) plan ⟨.empty title 1, p.events⟩ = .error e q := by
    rw [writeSheet, bind_of_ok hheader]
    exact bind_of_error hrows _
  have hsheet : withNewSheet (.empty title 1) (writeSheet (joinIndex path i) plan) p
      = .error e ⟨p.state.addSheet q.state, q.events⟩ := by
    rw [withNewSheet, hfill]
  have hbuild : buildSheet (joinIndex path i) sheet p
      = .error e ⟨p.state.addSheet q.state, q.events⟩ := by
    have hplan : (Build.ofExcept (.ok plan) : Build Workbook SheetPlan) p = .ok plan p := rfl
    rw [buildSheet, hread, bind_of_ok hplan, bind_of_ok (chooseTitle_of_ok htitle)]
    exact bind_of_error hsheet _
  exact bind_of_error hbuild _

/-- Later rows are not looked at. -/
theorem withRows (h : SheetStopsAtRow path sheet k p e q) {rows : List Json}
    (hrows : rows.take (k + 1) = sheet.rowNodes.take (k + 1)) :
    SheetStopsAtRow path (sheet.withRows rows) k p e q := by
  obtain ⟨plan, title, headed, hread, htitle, hheader, hstops⟩ := h.stops
  have hlength := hstops.lt_length
  rw [rowNodes_of_read hread] at hlength
  have hpresent : plan.rows ≠ .null := by
    intro hnull
    rw [hnull] at hlength
    exact absurd hlength (Nat.not_lt_zero k)
  have hread' := SheetPlan.read_withRows hread hpresent rows
  refine ⟨_, title, headed, hread', htitle, hheader, hstops.congr ?_⟩
  rw [rowNodes_of_read hread']
  exact hrows

end Json.SheetStopsAtRow

/-! ### Requests that differ behind the failure -/

namespace Json.HasWorkbook

variable {request node sheet : Json} {before behind : Entries} {i : Nat} {p q : Progress Workbook}
  {e : Failure}

/-- Other sheets from a place on, and another sheet at that place. -/
theorem comesToSheet_withSheets (h : request.HasWorkbook before node behind)
    (hcomes : request.ComesToSheet i sheet p) (other : Json) (later : List Json) :
    (request.withSheets (request.sheets.take i ++ other :: later)).ComesToSheet i other p := by
  obtain ⟨hread, hsheet, hbuilt⟩ := hcomes
  have hlength : (request.sheets.take i).length = i := by
    have hlt := (List.getElem?_eq_some_iff.mp hsheet).1
    rw [List.length_take]
    omega
  rw [h.part_eq] at hread
  have hread' := readSheets_exchange hread
    (List.append_ne_nil_of_right_ne_nil (request.sheets.take i) (List.cons_ne_nil other later))
  have hsheets : (request.withSheets (request.sheets.take i ++ other :: later)).sheets
      = request.sheets.take i ++ other :: later := by
    rw [Json.sheets, (h.withSheets _).part_eq, sheetNodes_of_read hread']
  refine ⟨?_, ?_, ?_⟩
  · rw [hsheets, (h.withSheets _).part_eq, hread']
  · rw [hsheets, List.getElem?_append_right (Nat.le_of_eq hlength), hlength, Nat.sub_self]
    rfl
  · rw [hsheets, List.take_left' hlength, (h.withSheets _).beforeWorkbook_eq,
      ← h.beforeWorkbook_eq, hbuilt]

/-- A sheet that fails where building comes to it fails the request. -/
theorem built_of_comesToSheet (h : request.HasWorkbook before node behind)
    (hcomes : request.ComesToSheet i sheet p)
    (hfails : buildSheetAt sheetsPath i sheet p = .error e q) :
    buildWorkbook request = ⟨.error e, q.events.toList⟩ := by
  have hstops : StopsAt (buildSheetAt sheetsPath) request.sheets i request.beforeWorkbook e q :=
    ⟨sheet, p, hcomes.sheet, hcomes.built, hfails⟩
  have hread := hcomes.read
  rw [h.part_eq] at hread
  exact h.built_of_error hread hstops.run

/-- The first sheets of a request by themselves. -/
theorem built_take (h : request.HasWorkbook before node behind)
    (hread : readSheets (request.part Field.workbook) = .ok request.sheets) {n : Nat}
    (hne : request.sheets.take n ≠ [])
    (hrun : forEach (buildSheetAt sheetsPath) 0 (request.sheets.take n) request.beforeWorkbook
      = .ok () p) :
    (buildWorkbook (request.withSheets (request.sheets.take n))).outcome = .ok p.state := by
  rw [h.part_eq] at hread
  rw [h.beforeWorkbook_eq, ← (h.withSheets (request.sheets.take n)).beforeWorkbook_eq] at hrun
  rw [(h.withSheets _).built_of_ok (readSheets_exchange hread hne) hrun]

end Json.HasWorkbook

/-! ### Requests that are built -/

/-- A request that is built can be read, and the loop over its sheets has built its workbook. -/
theorem Json.exists_run_of_built {request : Json} {w : Workbook} (hw : request.WellFormed)
    (hbuilt : (buildWorkbook request).outcome = .ok w) :
    readSheets (request.part Field.workbook) = .ok request.sheets ∧
      ∃ q, forEach (buildSheetAt sheetsPath) 0 request.sheets request.beforeWorkbook = .ok () q ∧
        q.state = w := by
  obtain ⟨forms, ⟨hget, hworkbook⟩, -, -⟩ := eq_addForms_of_built hw hbuilt
  obtain ⟨nodes, hread, -⟩ := describesWorkbook_iff.mp hworkbook
  rw [← part_workbook hget] at hread
  obtain ⟨before, behind, h⟩ := exists_hasWorkbook hw hread
  obtain rfl := sheetNodes_of_read hread
  refine ⟨hread, ?_⟩
  cases hrun : forEach (buildSheetAt sheetsPath) 0 (Json.sheets (.obj _))
      (Json.beforeWorkbook (.obj _)) with
  | error e q =>
    rw [h.built_of_error hread hrun] at hbuilt
    cases hbuilt
  | ok u q =>
    rw [h.built_of_ok hread hrun] at hbuilt
    exact ⟨q, rfl, Except.ok.inj hbuilt⟩

/-- A loop over sheets that begins with none comes past the first of them with the first of what it
builds. -/
theorem Build.exists_take_of_run {path : Text} {nodes : List Json} {p q : Progress Workbook}
    {u : Unit} (hempty : p.state.sheets = [])
    (hrun : forEach (buildSheetAt path) 0 nodes p = .ok u q) (n : Nat) :
    ∃ reached, forEach (buildSheetAt path) 0 (nodes.take n) p = .ok () reached ∧
      q.state.sheets.take n = reached.state.sheets := by
  obtain ⟨reached, hfirst, hrest⟩ := exists_reached_of_ok hrun n
  obtain ⟨added, hadded, hcount⟩ := exists_added_of_run hfirst
  obtain ⟨added', hadded', hcount'⟩ := exists_added_of_run hrest
  refine ⟨reached, hfirst, ?_⟩
  rw [hempty, List.nil_append] at hadded
  rw [List.length_take, ← hadded] at hcount
  rw [List.length_drop] at hcount'
  rw [hadded']
  -- there are `n` sheets by then, or no more come
  rcases Nat.le_total n nodes.length with hle | hle
  · rw [Nat.min_eq_left hle] at hcount
    exact List.take_left' hcount
  · rw [Nat.sub_eq_zero_of_le hle] at hcount'
    rw [List.length_eq_zero_iff.mp hcount', List.append_nil]
    exact List.take_of_length_le (by omega)

/-! ### The order of building -/

/-- Nothing behind the place where building stops is looked at. -/
structure Json.FailsFast (request : Json) : Prop where
  /-- A request whose sheets can be read fails at one of them, if it fails. -/
  located : ∀ e, (buildWorkbook request).outcome = .error e →
    (∃ nodes, readSheets (request.part Field.workbook) = .ok nodes) →
      ∃ i, request.StopsAtSheet i e
  /-- Building fails as the sheet did. -/
  fails : ∀ i e, request.StopsAtSheet i e → (buildWorkbook request).outcome = .error e
  /-- The later sheets may be any others. -/
  sheets : ∀ i e, request.StopsAtSheet i e → ∀ later : List Json,
    buildWorkbook (request.withSheets (request.sheets.take (i + 1) ++ later))
      = buildWorkbook request
  /-- The later rows of the sheet that fails may be any others, too. -/
  rows : ∀ i k e, request.StopsAtRow i k e → request.StopsAtSheet i e ∧
    ∀ sheet, request.sheets[i]? = some sheet → ∀ laterRows later : List Json,
      buildWorkbook (request.withSheets (request.sheets.take i
          ++ sheet.withRows (sheet.rowNodes.take (k + 1) ++ laterRows) :: later))
        = buildWorkbook request
  /-- The sheets before the one that fails are built by themselves. -/
  before : ∀ i e, request.StopsAtSheet i e → 1 ≤ i →
    ∃ w, (buildWorkbook (request.withSheets (request.sheets.take i))).outcome = .ok w

/-- The first sheets of a request by themselves are built into the first sheets of its workbook. -/
def Json.KeepsPrefixes (request : Json) : Prop :=
  ∀ w, (buildWorkbook request).outcome = .ok w → ∀ n, 1 ≤ n →
    (buildWorkbook (request.withSheets (request.sheets.take n))).outcome = .ok ⟨w.sheets.take n⟩

theorem Json.failsFast {request : Json} (hw : request.WellFormed) : request.FailsFast where
  located := by
    rintro e herror ⟨nodes, hread⟩
    obtain ⟨before, behind, h⟩ := exists_hasWorkbook hw hread
    have hsheets : request.sheets = nodes := sheetNodes_of_read hread
    cases hrun : forEach (buildSheetAt sheetsPath) 0 nodes request.beforeWorkbook with
    | ok u q =>
      -- a loop that succeeds builds the request
      rw [h.built_of_ok hread hrun] at herror
      cases herror
    | error e' q =>
      rw [h.built_of_error hread hrun] at herror
      obtain rfl := Except.error.inj herror
      obtain ⟨i, hstops⟩ := exists_stopsAt hrun
      obtain ⟨sheet, p, hsheet, hbuilt, hfails⟩ := hstops.fails
      rw [← hsheets] at hread hsheet hbuilt
      exact ⟨i, sheet, p, q, ⟨hread, hsheet, hbuilt⟩, hfails⟩
  fails := by
    rintro i e ⟨sheet, p, q, hcomes, hfails⟩
    obtain ⟨before, behind, h⟩ := exists_hasWorkbook hw hcomes.read
    rw [h.built_of_comesToSheet hcomes hfails]
  sheets := by
    rintro i e ⟨sheet, p, q, hcomes, hfails⟩ later
    obtain ⟨before, behind, h⟩ := exists_hasWorkbook hw hcomes.read
    -- the sheet at the place is the same, and building comes to it in the same way
    have htake : request.sheets.take (i + 1) ++ later
        = request.sheets.take i ++ sheet :: later := by
      rw [List.take_add_one, hcomes.sheet, Option.toList_some, List.append_assoc,
        List.singleton_append]
    have hcomes' := h.comesToSheet_withSheets hcomes sheet later
    rw [htake, (h.withSheets _).built_of_comesToSheet hcomes' hfails,
      h.built_of_comesToSheet hcomes hfails]
  rows := by
    rintro i k e ⟨sheet, p, q, hcomes, hstops⟩
    obtain ⟨before, behind, h⟩ := exists_hasWorkbook hw hcomes.read
    refine ⟨⟨sheet, p, _, hcomes, hstops.run⟩, fun sheet' hsheet' laterRows later => ?_⟩
    obtain rfl := Option.some.inj (hcomes.sheet.symm.trans hsheet')
    have hlength : (sheet.rowNodes.take (k + 1)).length = k + 1 := by
      obtain ⟨_, _, _, -, -, -, hrow⟩ := hstops.stops
      have hlt := hrow.lt_length
      rw [List.length_take]
      omega
    -- the other sheet stops at the same row, in the same way
    have hrows : (sheet.rowNodes.take (k + 1) ++ laterRows).take (k + 1)
        = sheet.rowNodes.take (k + 1) := List.take_left' hlength
    have hstops' := hstops.withRows hrows
    have hcomes' := h.comesToSheet_withSheets hcomes
      (sheet.withRows (sheet.rowNodes.take (k + 1) ++ laterRows)) later
    rw [(h.withSheets _).built_of_comesToSheet hcomes' hstops'.run,
      h.built_of_comesToSheet hcomes hstops.run]
  before := by
    rintro i e ⟨sheet, p, q, hcomes, -⟩ hi
    obtain ⟨before, behind, h⟩ := exists_hasWorkbook hw hcomes.read
    have hne : request.sheets.take i ≠ [] := by
      have hlt := (List.getElem?_eq_some_iff.mp hcomes.sheet).1
      refine List.ne_nil_of_length_pos ?_
      rw [List.length_take]
      omega
    exact ⟨p.state, h.built_take hcomes.read hne hcomes.built⟩

theorem Json.keepsPrefixes {request : Json} (hw : request.WellFormed) : request.KeepsPrefixes := by
  intro w hbuilt n hn
  obtain ⟨hread, q, hrun, rfl⟩ := exists_run_of_built hw hbuilt
  obtain ⟨before, behind, h⟩ := exists_hasWorkbook hw hread
  obtain ⟨reached, hfirst, hsheets⟩ := exists_take_of_run (p := request.beforeWorkbook) rfl hrun n
  have hne : request.sheets.take n ≠ [] := by
    rw [Ne, List.take_eq_nil_iff, not_or]
    exact ⟨Nat.ne_of_gt hn, ne_nil_of_read hread⟩
  rw [h.built_take hread hne hfirst, hsheets]

/-- **Building goes through a request in order**, up to the first failure. -/
theorem buildWorkbook_inOrder {request : Json} (hw : request.WellFormed) :
    request.FailsFast ∧ request.KeepsPrefixes :=
  ⟨Json.failsFast hw, Json.keepsPrefixes hw⟩

/-- A sheet whose second data row cannot be written, between two that can. -/
def haltingSheet : Json :=
  .obj [("name", .str "b"), ("header", .obj [("columns", .arr [])]),
    ("rows", .arr [.obj [("x", .int 1)], .obj [("x", .null)], .obj [("x", .bool true)]])]

/-- A request for that sheet between two others, with keys that are passed over. -/
def haltingRequest : Json :=
  .obj [("note", .null), ("workbook", .obj [("name", .str "q"),
    ("sheets", .arr [bareSheet "a", haltingSheet, bareSheet "c"])]), ("version", .int 1)]

theorem stopsAtRow_haltingRequest :
    haltingRequest.StopsAtRow 1 1 (.build (.nullValue "x")) :=
  ⟨haltingSheet, _, _, ⟨rfl, rfl, rfl⟩, ⟨⟨_, _, _, rfl, rfl, rfl, ⟨_, _, rfl, rfl, rfl⟩⟩⟩⟩

theorem buildWorkbook_inOrder_halting : haltingRequest.WellFormed ∧
    (∀ laterRows later : List Json,
      buildWorkbook (haltingRequest.withSheets ([bareSheet "a"]
          ++ haltingSheet.withRows ([.obj [("x", .int 1)], .obj [("x", .null)]] ++ laterRows)
            :: later))
        = buildWorkbook haltingRequest) ∧
      ∃ w, (buildWorkbook (haltingRequest.withSheets [bareSheet "a"])).outcome = .ok w := by
  have hwell : haltingRequest.WellFormed := by decide
  obtain ⟨hfast, -⟩ := buildWorkbook_inOrder hwell
  obtain ⟨hsheet, hrows⟩ := hfast.rows 1 1 _ stopsAtRow_haltingRequest
  exact ⟨hwell, hrows haltingSheet rfl, hfast.before 1 _ hsheet (Nat.le_refl 1)⟩

end Gridwork
