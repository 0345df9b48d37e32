import Gridwork.Proofs.Build.Sheet
import Gridwork.Proofs.Json.Node

/-!
# Building a request

The sheets of a request are built one after the other, each titled beside those before it.
`ends_buildRequest` says what comes of it. Either the request describes a series of sheets and all
their names fit, and then the workbook holds exactly these sheets (`Workbook.addForms`); or building
stops, because the request describes nothing or a name does not fit, or because a sheet has not
enough rows. A request is an object with distinct keys, so its workbook is built once.

The lemmas about sheets and workbook nodes start from any workbook, since they also serve the steps
of a session. Whatever comes of such a step, it keeps the sheets that are there and adds sheets
behind them (`Workbook.Grows`).
-/

namespace Gridwork

namespace Json

/-- The value of a field; nothing but an object has fields. -/
def part (v : Json) (name : Text) : Json :=
  match v with
  | .obj entries => Entries.field entries name
  | _ => .null

/-- The nodes of the data rows of a sheet. -/
def rowNodes (sheet : Json) : List Json := (sheet.part Field.rows).items

/-- The nodes of the sheets of a workbook. -/
def sheetNodes (workbook : Json) : List Json := (workbook.part Field.sheets).items

/-- What building a request reports for an entry. -/
def entryEvents (forms : List SheetForm) (entry : Text × Json) : List Event :=
  if entry.1 = Field.workbook then forms.flatMap SheetForm.events else [.skippedKey entry.1]

/-- What building a request reports. -/
def requestEvents (request : Json) (forms : List SheetForm) : List Event :=
  match request with
  | .obj entries => entries.flatMap (entryEvents forms)
  | _ => []

end Json

/-! ### Sheets one after the other -/

namespace Workbook

/-- A workbook with sheets behind it, each titled beside those before it. -/
def addForms (w : Workbook) (forms : List SheetForm) : Workbook :=
  forms.foldl (fun w form => w.addSheet (form.sheet (Title.given w.titles form.name))) w

theorem addForms_append_singleton (w : Workbook) (forms : List SheetForm) (form : SheetForm) :
    w.addForms (forms ++ [form]) = (w.addForms forms).addSheet
      (form.sheet (Title.given (w.addForms forms).titles form.name)) := by
  rw [addForms, List.foldl_append]
  rfl

theorem titles_addForms (w : Workbook) (forms : List SheetForm) :
    (w.addForms forms).titles = Title.extend w.titles (forms.map (·.name)) := by
  induction forms using List.reverseRecOn with
  | nil => rfl
  | append_singleton forms form ih =>
    rw [addForms_append_singleton, titles_addSheet, SheetForm.sheet_title, ih, List.map_append,
      List.map_singleton, Title.extend_append_singleton]

theorem length_addForms (w : Workbook) (forms : List SheetForm) :
    (w.addForms forms).sheets.length = w.sheets.length + forms.length := by
  induction forms using List.reverseRecOn with
  | nil => rfl
  | append_singleton forms form ih =>
    rw [addForms_append_singleton, addSheet, List.length_append, ih, List.length_append,
      List.length_singleton, List.length_singleton, Nat.add_assoc]

/-- Growing keeps the sheets that are there and adds filled ones behind them. -/
def Grows (w v : Workbook) : Prop :=
  ∃ added, v.sheets = w.sheets ++ added ∧ ∀ s ∈ added, (Sheet.empty s.title 1).Grows s

theorem Grows.refl (w : Workbook) : w.Grows w := ⟨[], by simp, by simp⟩

theorem Grows.trans {u v w : Workbook} (huv : u.Grows v) (hvw : v.Grows w) : u.Grows w := by
  obtain ⟨added, hsheets, hadded⟩ := huv
  obtain ⟨added', hsheets', hadded'⟩ := hvw
  refine ⟨added ++ added', by rw [hsheets', hsheets, List.append_assoc], fun s hs => ?_⟩
  rcases List.mem_append.mp hs with hs | hs
  · exact hadded s hs
  · exact hadded' s hs

theorem grows_addSheet (w : Workbook) {s : Sheet} (h : (Sheet.empty s.title 1).Grows s) :
    w.Grows (w.addSheet s) :=
  ⟨[s], rfl, by simpa using h⟩

end Workbook

/-- The progress once sheets have been added. -/
def Progress.addForms (p : Progress Workbook) (forms : List SheetForm) : Progress Workbook :=
  ⟨p.state.addForms forms, p.events ++ (forms.flatMap SheetForm.events).toArray⟩

theorem Progress.addForms_nil (p : Progress Workbook) : p.addForms [] = p := by
  simp [addForms, Workbook.addForms]

theorem Progress.addForms_append_singleton (p : Progress Workbook) (forms : List SheetForm)
    (form : SheetForm) : p.addForms (forms ++ [form]) = (p.addForms forms).addForms [form] := by
  simp [addForms, Workbook.addForms, List.flatMap_append]

namespace Build

open Json (DescribesSheet DescribesWorkbook DescribesRequest)

variable {p q r : Progress Workbook} {u v w : Workbook}

/-! ### One sheet -/

/-- How building a sheet stops: its node describes nothing or its name does not fit, or it has not
enough rows. -/
structure SheetRefused (w : Workbook) (node : Json) (e : Failure) (v : Workbook) : Prop where
  grows : w.Grows v
  reason : (∃ b, e = .build b ∧
      ∀ form, node.DescribesSheet form → ¬ Title.Fits w.titles form.name) ∨
    (e = .rowOutOfRange ∧ Cell.maxRow ≤ node.rowNodes.length)

theorem ends_chooseTitle (path name : Text) :
    Ends (chooseTitle path name) p
      (fun title q => Title.choose p.state.titles name = .ok title ∧ q = p)
      (fun e q => (∃ b, e = .build b) ∧ (∀ title, Title.choose p.state.titles name ≠ .ok title) ∧
        q = p) := by
  refine ends_bind (ends_get ?_)
  cases h : Title.choose p.state.titles name with
  | ok title => exact ends_pure ⟨rfl, rfl⟩
  | error e => exact ends_stop ⟨⟨_, rfl⟩, by simp, rfl⟩

/-- A sheet that is read has its rows under that field. -/
theorem rowNodes_of_read {path : Text} {node : Json} {plan : SheetPlan}
    (h : SheetPlan.read path node = .ok plan) : node.rowNodes = plan.rows.items := by
  cases node with
  | null | bool | int | float | str | arr => cases h
  | obj entries =>
    simp only [SheetPlan.read] at h
    split at h
    · split at h
      · cases h
      · obtain rfl := Except.ok.inj h
        rfl
    · cases h

theorem ends_buildSheet (path : Text) (node : Json) :
    Ends (buildSheet path node) p
      (fun plan q => ∃ form, node.DescribesSheet form ∧ form.name = plan.name ∧
        Title.Fits p.state.titles form.name ∧ p.state.Grows q.state ∧ q = p.addForms [form])
      (fun e q => SheetRefused p.state node e q.state) := by
  refine ends_bind (ends_ofExcept (fun plan hread => ?_) fun b hread => ?_)
  · have hdescribes := fun form => @Json.describesSheet_iff path node form
    refine ends_bind ((ends_chooseTitle path plan.name).mono ?_ ?_)
    · rintro title _ ⟨hchoose, rfl⟩
      obtain ⟨hvalid, hfits, rfl⟩ := Title.choose_eq_ok_iff.mp hchoose
      refine ends_bind (ends_withNewSheet ((ends_writeSheet _ _ path plan).mono ?_ ?_))
      · rintro _ _ ⟨form, hname, hheader, hrows, hgrows, rfl⟩
        refine ends_pure ⟨form, ?_, hname, hname ▸ hfits, Workbook.grows_addSheet _ ?_, ?_⟩
        · exact (hdescribes form).mpr ⟨plan, hread, hname.symm, hname ▸ hvalid, hheader, hrows⟩
        · rw [SheetForm.sheet_title]
          exact hgrows
        · simp [Progress.addForms, Workbook.addForms, hname]
      · -- the sheet is added as far as it was filled
        intro e s h
        have hgrows : (Sheet.empty s.state.title 1).Grows s.state := by
          rw [h.grows.title_eq]
          exact h.grows
        refine ⟨Workbook.grows_addSheet _ hgrows, ?_⟩
        rcases h.reason with ⟨b, he, hnot⟩ | ⟨he, i, hi, hrange⟩
        · refine Or.inl ⟨b, he, fun form hform _ => hnot ?_⟩
          obtain ⟨plan', hread', -, -, hheader, hrows⟩ := (hdescribes form).mp hform
          obtain rfl := Except.ok.inj (hread.symm.trans hread')
          exact ⟨form, hheader, hrows⟩
        · refine Or.inr ⟨he, ?_⟩
          rw [rowNodes_of_read hread]
          -- the header takes one of the rows
          have hpast : ¬ (1 ≤ (1 : Int) + i ∧ (1 : Int) + i ≤ Cell.maxRow) := hrange
          omega
    · -- without a title nothing is added
      rintro e q ⟨⟨b, he⟩, hnot, rfl⟩
      refine ⟨.refl _, Or.inl ⟨b, he, fun form hform hfits => ?_⟩⟩
      obtain ⟨plan', hread', hname, hvalid, -, -⟩ := (hdescribes form).mp hform
      obtain rfl := Except.ok.inj (hread.symm.trans hread')
      rw [← hname] at hvalid hfits
      exact hnot _ (Title.choose_eq_ok_iff.mpr ⟨hvalid, hfits, rfl⟩)
  · refine ⟨.refl _, Or.inl ⟨b, rfl, fun form hform _ => ?_⟩⟩
    obtain ⟨plan, hread', -⟩ := (Json.describesSheet_iff path).mp hform
    rw [hread] at hread'
    cases hread'

/-! ### The sheets of a workbook -/

/-- What building the sheets of some nodes does. -/
structure SheetsBuilt (p : Progress Workbook) (nodes : List Json) (forms : List SheetForm)
    (q : Progress Workbook) : Prop where
  described : List.Forall₂ DescribesSheet nodes forms
  fit : Title.AllFit p.state.titles (forms.map (·.name))
  grows : p.state.Grows q.state
  eq : q = p.addForms forms

theorem SheetsBuilt.nil (p : Progress Workbook) : SheetsBuilt p [] [] p :=
  ⟨.nil, Title.allFit_nil _, .refl _, (Progress.addForms_nil p).symm⟩

theorem SheetsBuilt.titles_eq {nodes : List Json} {forms : List SheetForm}
    (h : SheetsBuilt p nodes forms q) :
    q.state.titles = Title.extend p.state.titles (forms.map (·.name)) := by
  rw [h.eq]
  exact Workbook.titles_addForms _ _

theorem SheetsBuilt.append_singleton {nodes : List Json} {forms : List SheetForm} {node : Json}
    {form : SheetForm} (h : SheetsBuilt p nodes forms q) (hnode : node.DescribesSheet form)
    (hfits : Title.Fits q.state.titles form.name) (hgrows : q.state.Grows r.state)
    (hr : r = q.addForms [form]) : SheetsBuilt p (nodes ++ [node]) (forms ++ [form]) r := by
  refine ⟨List.rel_append h.described (.cons hnode .nil), ?_, h.grows.trans hgrows, ?_⟩
  · rw [List.map_append]
    rw [h.titles_eq] at hfits
    exact h.fit.append_singleton hfits
  · rw [hr, h.eq, Progress.addForms_append_singleton]

/-- How building a workbook node stops: it describes nothing or a name does not fit, or some sheet
has not enough rows. -/
structure WorkbookRefused (w : Workbook) (node : Json) (e : Failure) (v : Workbook) : Prop where
  grows : w.Grows v
  reason : (∃ b, e = .build b ∧
      ∀ forms, node.DescribesWorkbook forms → ¬ Title.AllFit w.titles (forms.map (·.name))) ∨
    (e = .rowOutOfRange ∧ ∃ sheet ∈ node.sheetNodes, Cell.maxRow ≤ sheet.rowNodes.length)

/-- A workbook that is read has its sheets under that field. -/
theorem sheetNodes_of_read {node : Json} {nodes : List Json} (h : readSheets node = .ok nodes) :
    node.sheetNodes = nodes := by
  obtain ⟨entries, name, rfl, -, hsheets, -⟩ := Json.readSheets_eq_ok_iff.mp h
  rw [Json.sheetNodes, Json.part, hsheets, Json.items]

/-- A sheet that is refused among others stops the workbook. -/
theorem SheetRefused.workbookRefused {node sheet : Json} {nodes : List Json}
    {forms : List SheetForm} {i : Nat} {e : Failure} (hread : readSheets node = .ok nodes)
    (hi : nodes[i]? = some sheet) (hbuilt : SheetsBuilt p (nodes.take i) forms q)
    (h : SheetRefused q.state sheet e v) : WorkbookRefused p.state node e v := by
  refine ⟨hbuilt.grows.trans h.grows, ?_⟩
  rcases h.reason with ⟨b, he, hnot⟩ | ⟨he, hrows⟩
  · refine Or.inl ⟨b, he, fun all hall hfit => ?_⟩
    obtain ⟨nodes', hread', hall⟩ := Json.describesWorkbook_iff.mp hall
    obtain rfl := Except.ok.inj (hread.symm.trans hread')
    obtain ⟨form, hform, hsheet⟩ := exists_getElem?_of_forall₂ hall hi
    -- the sheets before it are those that were built
    have hbefore : all.take i = forms :=
      Json.describesSheets_unique (List.forall₂_take i hall) hbuilt.described
    refine hnot form hsheet ?_
    rw [hbuilt.titles_eq, ← hbefore, List.map_take]
    exact hfit i form.name (by rw [List.getElem?_map, hform, Option.map_some])
  · refine Or.inr ⟨he, sheet, ?_, hrows⟩
    rw [sheetNodes_of_read hread]
    exact List.mem_of_getElem? hi

theorem ends_buildWorkbookNode (node : Json) :
    Ends (buildWorkbookNode node) p
      (fun _ q => ∃ forms, node.DescribesWorkbook forms ∧
        Title.AllFit p.state.titles (forms.map (·.name)) ∧ p.state.Grows q.state ∧
          q = p.addForms forms)
      (fun e q => WorkbookRefused p.state node e q.state) := by
  refine ends_bind (ends_ofExcept (fun nodes hread => ?_) fun b hread => ?_)
  · -- the invariant: the sheets before index `i` are built
    refine (ends_forEach (fun i q => ∃ forms, SheetsBuilt p (nodes.take i) forms q)
      ?_ fun i sheet q hi hq => ?_).mono ?_ fun e q h => h
    · exact ⟨[], .nil p⟩
    · rw [Nat.zero_add] at hq ⊢
      obtain ⟨forms, hbuilt⟩ := hq
      refine ends_bind ((ends_buildSheet _ sheet).mono ?_ fun e v h =>
        h.workbookRefused hread hi hbuilt)
      rintro _ r ⟨form, hform, -, hfits, hgrows, hr⟩
      refine ends_pure ⟨forms ++ [form], ?_⟩
      rw [List.take_add_one, hi, Option.toList_some]
      exact hbuilt.append_singleton hform hfits hgrows hr
    · rintro _ q ⟨forms, hbuilt⟩
      rw [List.take_of_length_le (by simp)] at hbuilt
      exact ⟨forms, Json.describesWorkbook_iff.mpr ⟨nodes, hread, hbuilt.described⟩, hbuilt.fit,
        hbuilt.grows, hbuilt.eq⟩
  · refine ⟨.refl _, Or.inl ⟨b, rfl, fun forms hforms _ => ?_⟩⟩
    obtain ⟨nodes, hread', -⟩ := Json.describesWorkbook_iff.mp hforms
    rw [hread] at hread'
    cases hread'

/-! ### Requests -/

/-- What building some entries of a request does. -/
structure EntriesBuilt (entries : Json.Entries) (forms : List SheetForm) (q : Progress Workbook) :
    Prop where
  /-- The sheets come from the workbook; without one there are none yet. -/
  source : (∃ node, (Field.workbook, node) ∈ entries ∧ node.DescribesWorkbook forms) ∨
    (∀ entry ∈ entries, entry.1 ≠ Field.workbook) ∧ forms = []
  fit : Title.AllFit [] (forms.map (·.name))
  grows : Workbook.empty.Grows q.state
  eq : q = ⟨Workbook.empty.addForms forms, (entries.flatMap (Json.entryEvents forms)).toArray⟩

theorem EntriesBuilt.nil : EntriesBuilt [] [] ⟨.empty, #[]⟩ :=
  ⟨Or.inr ⟨by simp, rfl⟩, Title.allFit_nil _, .refl _, rfl⟩

/-- A key that is not the workbook's is reported and passed over. -/
theorem EntriesBuilt.skip {entries : Json.Entries} {forms : List SheetForm} {entry : Text × Json}
    (h : EntriesBuilt entries forms q) (hkey : entry.1 ≠ Field.workbook) :
    EntriesBuilt (entries ++ [entry]) forms
      ⟨q.state, q.events.push (.skippedKey entry.1)⟩ := by
  refine ⟨?_, h.fit, h.grows, ?_⟩
  · rcases h.source with ⟨node, hmem, hnode⟩ | ⟨hnone, hforms⟩
    · exact Or.inl ⟨node, List.mem_append_left _ hmem, hnode⟩
    · refine Or.inr ⟨fun e he => ?_, hforms⟩
      rcases List.mem_append.mp he with he | he
      · exact hnone e he
      · rw [List.mem_singleton.mp he]
        exact hkey
  · rw [h.eq]
    simp [List.flatMap_append, Json.entryEvents, hkey]

/-- Before the workbook there are no sheets. -/
theorem EntriesBuilt.eq_nil {entries : Json.Entries} {forms : List SheetForm}
    (h : EntriesBuilt entries forms q) (hnone : ∀ entry ∈ entries, entry.1 ≠ Field.workbook) :
    forms = [] := by
  rcases h.source with ⟨node, hmem, -⟩ | ⟨-, hforms⟩
  · exact absurd rfl (hnone _ hmem)
  · exact hforms

/-- The workbook is built once, since no other entry has its key. -/
theorem EntriesBuilt.workbook {entries : Json.Entries} {forms forms' : List SheetForm} {node : Json}
    (h : EntriesBuilt entries forms q) (hnone : ∀ entry ∈ entries, entry.1 ≠ Field.workbook)
    (hnode : node.DescribesWorkbook forms')
    (hfit : Title.AllFit q.state.titles (forms'.map (·.name))) (hgrows : q.state.Grows r.state)
    (hr : r = q.addForms forms') :
    EntriesBuilt (entries ++ [(Field.workbook, node)]) forms' r := by
  obtain rfl := h.eq_nil hnone
  -- the entries before it report the same whatever the workbook describes
  have hevents : entries.flatMap (Json.entryEvents forms')
      = entries.flatMap (Json.entryEvents []) := by
    refine List.flatMap_congr fun entry he => ?_
    rw [Json.entryEvents, Json.entryEvents, if_neg (hnone entry he), if_neg (hnone entry he)]
  refine ⟨Or.inl ⟨node, by simp, hnode⟩, ?_, h.grows.trans hgrows, ?_⟩
  · rw [h.eq] at hfit
    exact hfit
  · rw [hr, h.eq, List.flatMap_append, hevents]
    simp [Progress.addForms, Workbook.addForms, Json.entryEvents]

/-- How building a request stops: it describes nothing or a name does not fit, or some sheet has not
enough rows. -/
def RequestRefused (request : Json) (e : Failure) : Prop :=
  (∃ b, e = .build b ∧
      ∀ forms, request.DescribesRequest forms → ¬ Title.AllFit [] (forms.map (·.name))) ∨
    (e = .rowOutOfRange ∧
      ∃ sheet ∈ (request.part Field.workbook).sheetNodes, Cell.maxRow ≤ sheet.rowNodes.length)

/-- A workbook that is refused stops the request. -/
theorem WorkbookRefused.requestRefused {entries : Json.Entries} {node : Json} {e : Failure}
    (hnode : entries.get? Field.workbook = some node) (h : WorkbookRefused .empty node e v) :
    RequestRefused (.obj entries) e := by
  rcases h.reason with ⟨b, he, hnot⟩ | ⟨he, sheet, hsheet, hrows⟩
  · refine Or.inl ⟨b, he, fun forms hforms => ?_⟩
    obtain ⟨hnode', hforms⟩ := hforms
    obtain rfl := Option.some.inj (hnode.symm.trans hnode')
    exact hnot forms hforms
  · refine Or.inr ⟨he, sheet, ?_, hrows⟩
    -- the workbook has no other spelling
    have hpart : (Json.obj entries).part Field.workbook = node := by
      have hspellings : Field.spellings Field.workbook = [Field.workbook] := by decide
      simp [Json.part, Json.Entries.field, Json.Entries.field?, hspellings, hnode]
    rw [hpart]
    exact hsheet

/-- **What comes of building a request.** -/
theorem ends_buildRequest {request : Json} (hw : request.WellFormed) :
    Ends (buildRequest request) ⟨.empty, #[]⟩
      (fun _ q => ∃ forms, request.DescribesRequest forms ∧
        Title.AllFit [] (forms.map (·.name)) ∧ Workbook.empty.Grows q.state ∧
          q = ⟨Workbook.empty.addForms forms, (request.requestEvents forms).toArray⟩)
      (fun e _ => RequestRefused request e) := by
  cases request with
  | null | bool | int | float | str | arr =>
    exact ends_stop (Or.inl ⟨_, rfl, fun forms h => (by cases h)⟩)
  | obj entries =>
    have hdistinct := ((Json.wellFormed_obj_iff entries).mp hw).1
    -- the invariant: the entries before index `i` are built
    refine ends_bind ((ends_forEach (fun i q => ∃ forms, EntriesBuilt (entries.take i) forms q)
      ?_ fun i entry q hi hq => ?_).mono ?_ fun e q h => h)
    · exact ⟨[], .nil⟩
    · rw [Nat.zero_add] at hq ⊢
      obtain ⟨forms, hbuilt⟩ := hq
      have htake : entries.take (i + 1) = entries.take i ++ [entry] := by
        rw [List.take_add_one, hi, Option.toList_some]
      simp only [htake]
      by_cases hkey : entry.1 = Field.workbook
      · obtain ⟨key, node⟩ := entry
        obtain rfl : key = Field.workbook := hkey
        have hget : Json.Entries.get? entries Field.workbook = some node :=
          (Json.Entries.get?_eq_some_iff hdistinct).mpr (List.mem_of_getElem? hi)
        -- the key is not repeated, so it does not stand before this entry
        have hnone : ∀ e ∈ entries.take i, e.1 ≠ Field.workbook := by
          have hnodup := hdistinct.sublist ((List.take_sublist (i + 1) entries).map Prod.fst)
          rw [htake, List.map_append, List.nodup_append] at hnodup
          exact fun e he heq => hnodup.2.2 e.1 (List.mem_map_of_mem he) Field.workbook (by simp) heq
        have hempty : q.state = .empty := by
          rw [hbuilt.eq, hbuilt.eq_nil hnone]
          rfl
        rw [buildEntry, if_pos rfl]
        refine (ends_buildWorkbookNode node).mono ?_ fun e v h => ?_
        · rintro _ r ⟨forms', hnode, hfit, hgrows, hr⟩
          exact ⟨forms', hbuilt.workbook hnone hnode hfit hgrows hr⟩
        · rw [hempty] at h
          exact h.requestRefused hget
      · rw [buildEntry, if_neg hkey]
        exact ends_report ⟨forms, hbuilt.skip hkey⟩
    · rintro _ q ⟨forms, hbuilt⟩
      rw [List.take_of_length_le (by simp)] at hbuilt
      refine ends_bind (ends_get ?_)
      by_cases hnone : q.state.sheets.isEmpty = true
      · -- a workbook that was built has a sheet, so there was none
        rw [if_pos hnone]
        refine ends_stop (Or.inl ⟨_, rfl, fun forms' hforms' _ => ?_⟩)
        obtain ⟨hworkbook, -⟩ := hforms'
        rcases hbuilt.source with ⟨node, -, hnode⟩ | ⟨hskipped, -⟩
        · refine hnode.ne_nil (List.eq_nil_of_length_eq_zero ?_)
          have hlen := Workbook.length_addForms .empty forms
          rw [hbuilt.eq, List.isEmpty_iff_length_eq_zero] at hnone
          exact (hnone.symm.trans (hlen.trans (Nat.zero_add _))).symm
        · exact hskipped _ ((Json.Entries.get?_eq_some_iff hdistinct).mp hworkbook) rfl
      · rw [if_neg hnone]
        refine ends_pure ⟨forms, ?_, hbuilt.fit, hbuilt.grows, hbuilt.eq⟩
        rcases hbuilt.source with ⟨node, hmem, hnode⟩ | ⟨-, rfl⟩
        · exact .obj ((Json.Entries.get?_eq_some_iff hdistinct).mpr hmem) hnode
        · rw [hbuilt.eq] at hnone
          exact absurd rfl hnone

end Build

end Gridwork
