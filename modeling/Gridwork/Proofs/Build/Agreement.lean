import Gridwork.Proofs.Build.Faults
import Gridwork.Proofs.Build.Reports
import Gridwork.Proofs.Build.Run
import Gridwork.Proofs.Number.Numeral
import Gridwork.Proofs.Validation.Report

/-!
# Validation and building ask for the same structure

A request is checked twice: validation reports what it lacks of its structure, and building makes
the same checks once more on its way to the sheets. `structureAgreement` says that the two never
drift apart. A request lacks something of its structure exactly if building refuses it by one of
these checks (`Build.structuralErrors`), whatever it holds besides. What a valid request comes to is
therefore told by its sheets alone, which are built one after the other until one cannot be
(`Build.sheetsFrom`).

That no other part of building can give such an error is seen from the places that errors name:
whatever is wrong inside a sheet lies at least two steps below the workbook.
-/

namespace Gridwork

open Validation (HasStructure structureViolations)

namespace Build

/-- The errors of the checks that building makes before it looks into a sheet: of the request, of
its workbook with its name and its sheets, of the first sheet and its name, and, at the end, that
there was a workbook. -/
def structuralErrors : List BuildError :=
  [.requestNotObject, .notObject Field.workbook,
    .workbookNameMissing (fieldPath Field.workbook Field.name), .noSheets sheetsPath,
    .notObject (joinIndex sheetsPath 0), .notText (fieldPath (joinIndex sheetsPath 0) Field.name),
    .workbookMissing]

/-- Builds sheets one after the other beside those that are there, and stops at the first failure;
`i` is the index of the first of them. -/
def sheetsFrom (w : Workbook) (i : Nat) : List Json → Except Failure Workbook
  | [] => .ok w
  | node :: rest =>
    match buildSheet (joinIndex sheetsPath i) node ⟨w, #[]⟩ with
    | .ok _ p => sheetsFrom p.state (i + 1) rest
    | .error e _ => .error e

/-! ### The sheets one after the other -/

/-- The loop over the sheets of a request, whatever was reported before it. -/
theorem ends_sheetsFrom (i : Nat) (nodes : List Json) (p : Progress Workbook) :
    Ends (forEach (buildSheetAt sheetsPath) i nodes) p
      (fun _ q => sheetsFrom p.state i nodes = .ok q.state)
      (fun e _ => sheetsFrom p.state i nodes = .error e) := by
  -- on the sheets, from whatever those before them have come to
  induction nodes generalizing i p with
  | nil => exact ends_pure rfl
  | cons node rest ih =>
    obtain ⟨w, events⟩ := p
    have hsame := workbookLaws_ignoresReports.buildSheet (joinIndex sheetsPath i) node w events #[]
    refine ends_bind (ends_bind ?_)
    -- the sheet comes out the same as without reports before it
    unfold Ends sheetsFrom
    dsimp only
    generalize buildSheet (joinIndex sheetsPath i) node ⟨w, events⟩ = x at hsame
    generalize buildSheet (joinIndex sheetsPath i) node ⟨w, #[]⟩ = y at hsame
    cases hsame with
    | ok plan v events events' => exact ih (i + 1) ⟨v, events⟩
    | error e v events events' => rfl

/-- A failing series of sheets fails for what is wrong with one of them. -/
theorem exists_fault_of_sheetsFrom {w : Workbook} {i : Nat} {nodes : List Json} {e : BuildError}
    (h : sheetsFrom w i nodes = .error (.build e)) :
    ∃ j node, nodes[j]? = some node ∧
      (SheetPlan.read (joinIndex sheetsPath (i + j)) node = .error e ∨
        SheetFault (joinIndex sheetsPath (i + j)) e) := by
  -- on the sheets, beside whatever others and counted from any index
  induction nodes generalizing w i with
  | nil => cases h
  | cons node rest ih =>
    rw [sheetsFrom] at h
    split at h
    · -- a sheet of the rest is one further in the whole list
      obtain ⟨j, member, hmember, hfault⟩ := ih h
      have hindex : i + (j + 1) = i + 1 + j := by omega
      exact ⟨j + 1, member, hmember, by rwa [hindex]⟩
    · next failure p hbuild =>
      obtain rfl := Except.error.inj h
      exact ⟨0, node, rfl, (failsWith_buildSheet _ node).of_error hbuild⟩

/-! ### Places -/

/-- The number of points in a path. -/
def depth (path : Text) : Nat := path.toList.count (.char '.')

theorem depth_fieldPath (path field : Text) :
    depth (fieldPath path field) = depth path + 1 + depth field := by
  rw [depth, fieldPath, Text.toList_append, Text.toList_append, List.count_append,
    List.count_append]
  rfl

/-- An index has no points. -/
theorem depth_joinIndex (path : Text) (i : Nat) : depth (joinIndex path i) = depth path := by
  have hdigits : (toString i : Text).toList.count (.char '.') = 0 := by
    rw [List.count_eq_zero]
    intro hmem
    have hpoint : (CodePoint.char '.').isDigit = false := by decide
    rw [isDigit_of_mem_ofString_toString hmem] at hpoint
    cases hpoint
  have hopen : ("[" : Text).toList.count (.char '.') = 0 := by decide
  have hclose : ("]" : Text).toList.count (.char '.') = 0 := by decide
  rw [depth, joinIndex, Text.toList_append, Text.toList_append, Text.toList_append,
    List.count_append, List.count_append, List.count_append, hdigits, hopen, hclose]
  rfl

/-- The index of a path can be read back. -/
theorem joinIndex_inj {path : Text} {i j : Nat} (h : joinIndex path i = joinIndex path j) :
    i = j := by
  rw [joinIndex, joinIndex, Text.append_left_inj, Text.append_right_inj, Text.ofString_inj] at h
  exact eq_of_toString_eq h

theorem depth_sheet (i : Nat) : depth (joinIndex sheetsPath i) = 1 := by
  rw [depth_joinIndex]
  decide

/-! ### The checks of the structure -/

/-- Errors that lie no deeper than the structure reaches: an object is asked for down to the first
sheet, and a text for its name. -/
def Shallow : BuildError → Prop
  | .requestNotObject | .workbookMissing | .workbookNameMissing _ | .noSheets _ => True
  | .notObject path => depth path ≤ 1
  | .notText path => depth path ≤ 2
  | _ => False

theorem shallow_of_mem {e : BuildError} (h : e ∈ structuralErrors) : Shallow e := by
  simp only [structuralErrors, List.mem_cons, List.not_mem_nil, or_false] at h
  rcases h with rfl | rfl | rfl | rfl | rfl | rfl | rfl
  · trivial
  · have hroot : depth Field.workbook ≤ 1 := by decide
    exact hroot
  · trivial
  · trivial
  · exact (depth_sheet 0).le
  · have hname : depth (fieldPath (joinIndex sheetsPath 0) Field.name) ≤ 2 := by decide
    exact hname
  · trivial

/-- What is wrong inside a sheet lies deeper. -/
theorem not_shallow_of_fault {i : Nat} {e : BuildError}
    (h : SheetFault (joinIndex sheetsPath i) e) : ¬ Shallow e := by
  have hheader : depth (fieldPath (joinIndex sheetsPath i) Field.header) = 2 := by
    rw [depth_fieldPath, depth_sheet]
    rfl
  have hrows : depth (fieldPath (joinIndex sheetsPath i) Field.rows) = 2 := by
    rw [depth_fieldPath, depth_sheet]
    rfl
  cases h with
  | headerNotObject =>
    intro hle
    rw [Shallow, hheader] at hle
    omega
  | rowNotObject j =>
    intro hle
    rw [Shallow, depth_joinIndex, hrows] at hle
    omega
  | labelNotText j =>
    intro hle
    rw [Shallow, depth_joinIndex, depth_fieldPath, hheader] at hle
    omega
  -- the other errors of a sheet are of no kind that a check of the structure gives
  | emptyName | badTitle | noHeader | columnsNotArray | rowsNotArray | style | nullValue | notFinite
  | illegalText => exact id

/-- A sheet that is an object with a text for a name. -/
def NamedSheet (node : Json) : Prop :=
  ∃ entries name, node = .obj entries ∧ Json.Entries.field entries Field.name = .str name

/-- What does not have the name of a sheet is no sheet. -/
theorem read_of_not_namedSheet {node : Json} (h : ¬ NamedSheet node) (path : Text) :
    SheetPlan.read path node = .error (.notObject path) ∨
      SheetPlan.read path node = .error (.notText (fieldPath path Field.name)) := by
  cases node with
  | null | bool | int | float | str | arr => exact Or.inl rfl
  | obj entries =>
    refine Or.inr ?_
    rw [SheetPlan.read]
    split
    · next name hname => exact absurd ⟨entries, name, rfl, hname⟩ h
    · rfl

/-- The name of a sheet may still be empty. -/
theorem eq_emptyName_of_namedSheet {node : Json} {path : Text} {e : BuildError}
    (h : NamedSheet node) (hread : SheetPlan.read path node = .error e) :
    e = .emptyName (fieldPath path Field.name) := by
  obtain ⟨entries, name, rfl, hname⟩ := h
  rw [SheetPlan.read, hname] at hread
  dsimp only at hread
  split at hread
  · exact (Except.error.inj hread).symm
  · cases hread

/-- Behind the first sheet, a sheet that is no named object is refused for its own place. -/
theorem notMem_structuralErrors_of_read {i : Nat} {node : Json} {e : BuildError}
    (hread : SheetPlan.read (joinIndex sheetsPath i) node = .error e)
    (hfirst : i = 0 → NamedSheet node) : e ∉ structuralErrors := by
  intro hmem
  by_cases hnamed : NamedSheet node
  · -- all that is left is an empty name, which no check of the structure looks for
    rw [eq_emptyName_of_namedSheet hnamed hread] at hmem
    exact shallow_of_mem hmem
  · refine hnamed (hfirst ?_)
    rcases read_of_not_namedSheet hnamed (joinIndex sheetsPath i) with h | h
    · obtain rfl := Except.error.inj (hread.symm.trans h)
      simp only [structuralErrors, List.mem_cons, BuildError.notObject.injEq, reduceCtorEq,
        List.not_mem_nil, false_or, or_false] at hmem
      rcases hmem with heq | heq
      · -- the workbook lies less deep
        have hdepth := depth_sheet i
        have hworkbook : depth Field.workbook = 0 := by decide
        rw [heq, hworkbook] at hdepth
        omega
      · exact joinIndex_inj heq
    · obtain rfl := Except.error.inj (hread.symm.trans h)
      simp only [structuralErrors, List.mem_cons, BuildError.notText.injEq, reduceCtorEq,
        List.not_mem_nil, false_or, or_false, fieldPath, Text.append_left_inj] at hmem
      exact joinIndex_inj hmem

/-- What a workbook is refused for before its sheets are looked at. -/
theorem mem_structuralErrors_of_readSheets {node : Json} {e : BuildError}
    (h : readSheets node = .error e) : e ∈ structuralErrors := by
  unfold readSheets at h
  split at h
  · split at h
    · split at h
      · cases h
      · obtain rfl := Except.error.inj h
        simp [structuralErrors]
    · obtain rfl := Except.error.inj h
      simp [structuralErrors]
  · obtain rfl := Except.error.inj h
    simp [structuralErrors]

end Build

/-! ### Requests -/

section Request

open Build

variable {request : Json}

/-- A request whose workbook cannot be read is refused for it. -/
theorem Json.HasWorkbook.outcome_of_unread {before behind : Json.Entries} {node : Json}
    {e : BuildError} (h : request.HasWorkbook before node behind)
    (hread : readSheets node = .error e) :
    (buildWorkbook request).outcome = .error (.build e) := by
  have hnode : ∀ p, buildWorkbookNode node p = .error (.build e) p := by
    intro p
    rw [buildWorkbookNode, hread]
    rfl
  have hrequest := h.run_buildRequest
  rw [bind_of_error (bind_of_error (hnode _) _)] at hrequest
  rw [buildWorkbook, hrequest]

/-- A request that has no workbook is refused for that. -/
theorem outcome_of_no_workbook {root : Json.Entries} (h : root.get? Field.workbook = none) :
    (buildWorkbook (.obj root)).outcome = .error (.build .workbookMissing) := by
  have hnone : ∀ entry ∈ root, entry.1 ≠ Field.workbook := by
    intro entry hentry heq
    have hne := List.lookup_eq_none_iff.mp h entry hentry
    rw [heq, bne_self_eq_false] at hne
    cases hne
  have hrequest : buildRequest (.obj root) ⟨.empty, #[]⟩
      = .error (.build .workbookMissing) (Progress.passOver ⟨.empty, #[]⟩ root) := by
    rw [buildRequest, bind_of_ok (run_passOver hnone 0 _), bind_of_ok (run_get _)]
    rfl
  rw [buildWorkbook, hrequest]

/-- The outcome of a request whose workbook is read is that of its sheets. -/
theorem Json.HasWorkbook.outcome_eq {before behind : Json.Entries} {node : Json}
    {nodes : List Json} (h : request.HasWorkbook before node behind)
    (hread : readSheets node = .ok nodes) :
    (buildWorkbook request).outcome = sheetsFrom .empty 0 nodes := by
  have hends := ends_sheetsFrom 0 nodes request.beforeWorkbook
  have hempty : request.beforeWorkbook.state = .empty := rfl
  rw [hempty] at hends
  cases hrun : forEach (buildSheetAt sheetsPath) 0 nodes request.beforeWorkbook with
  | ok u q => rw [h.built_of_ok hread hrun, hends.of_ok hrun]
  | error e q => rw [h.built_of_error hread hrun, hends.of_error hrun]

/-- Sheets of which the first is named are not refused by a check of the structure. -/
theorem notMem_structuralErrors_of_sheetsFrom {first : Json} {rest : List Json} {e : BuildError}
    (hfirst : NamedSheet first)
    (h : sheetsFrom .empty 0 (first :: rest) = .error (.build e)) : e ∉ structuralErrors := by
  obtain ⟨j, node, hnode, hfault⟩ := exists_fault_of_sheetsFrom h
  rcases hfault with hread | hfault
  · refine notMem_structuralErrors_of_read hread fun hzero => ?_
    have hj : j = 0 := by omega
    rw [hj] at hnode
    obtain rfl : first = node := Option.some.inj hnode
    exact hfirst
  · exact fun hmem => not_shallow_of_fault hfault (shallow_of_mem hmem)

/-- A request that has its structure comes to its sheets, of which the first is named. -/
theorem outcome_of_hasStructure (hw : request.WellFormed) (h : HasStructure request) :
    ∃ first rest, request.sheets = first :: rest ∧ NamedSheet first ∧
      (buildWorkbook request).outcome = sheetsFrom .empty 0 request.sheets := by
  obtain ⟨root, workbook, first, rest, name, sheetName, rfl, hget, hname, hsheets, hfirst⟩ := h
  obtain ⟨before, behind, hwork⟩ := Json.exists_hasWorkbook_of_get? hw hget
  have hread : readSheets (.obj workbook) = .ok (.obj first :: rest) :=
    Json.readSheets_eq_ok_iff.mpr ⟨workbook, name, rfl, hname, hsheets, List.cons_ne_nil _ _⟩
  have hnodes : (Json.obj root).sheets = .obj first :: rest := by
    rw [Json.sheets, hwork.part_eq]
    exact sheetNodes_of_read hread
  refine ⟨.obj first, rest, hnodes, ⟨first, sheetName, rfl, hfirst⟩, ?_⟩
  rw [hnodes]
  exact hwork.outcome_eq hread

/-- The first sheet is the first to be built, and it is checked before its contents. -/
theorem Json.HasWorkbook.outcome_of_not_namedSheet {before behind : Json.Entries}
    {node first : Json} {rest : List Json} (h : request.HasWorkbook before node behind)
    (hread : readSheets node = .ok (first :: rest)) (hfirst : ¬ NamedSheet first) :
    ∃ e ∈ structuralErrors, (buildWorkbook request).outcome = .error (.build e) := by
  have hfails : ∀ e, SheetPlan.read (joinIndex sheetsPath 0) first = .error e →
      (buildWorkbook request).outcome = .error (.build e) := by
    intro e he
    have hsheet : buildSheet (joinIndex sheetsPath 0) first ⟨.empty, #[]⟩
        = .error (.build e) ⟨.empty, #[]⟩ := by
      rw [buildSheet, he]
      rfl
    rw [h.outcome_eq hread, sheetsFrom, hsheet]
  rcases read_of_not_namedSheet hfirst (joinIndex sheetsPath 0) with he | he
  · exact ⟨_, by simp [structuralErrors], hfails _ he⟩
  · exact ⟨_, by simp [structuralErrors], hfails _ he⟩

/-- A request that lacks something of its structure is refused by one of the checks. -/
theorem hasStructure_or_refused (hw : request.WellFormed) :
    HasStructure request ∨
      ∃ e ∈ structuralErrors, (buildWorkbook request).outcome = .error (.build e) := by
  -- the checks one after the other, in the order in which building makes them
  cases request with
  | null | bool | int | float | str | arr =>
    exact Or.inr ⟨.requestNotObject, List.mem_cons_self, rfl⟩
  | obj root =>
    cases hget : Json.Entries.get? root Field.workbook with
    | none =>
      exact Or.inr ⟨.workbookMissing, by simp [structuralErrors], outcome_of_no_workbook hget⟩
    | some node =>
      obtain ⟨before, behind, hwork⟩ := Json.exists_hasWorkbook_of_get? hw hget
      cases hread : readSheets node with
      | error e =>
        exact Or.inr ⟨e, mem_structuralErrors_of_readSheets hread, hwork.outcome_of_unread hread⟩
      | ok nodes =>
        obtain ⟨workbook, name, rfl, hname, hsheets, hnonempty⟩ :=
          Json.readSheets_eq_ok_iff.mp hread
        obtain ⟨first, rest, rfl⟩ := List.exists_cons_of_ne_nil hnonempty
        by_cases hfirst : NamedSheet first
        · obtain ⟨sheet, sheetName, rfl, hsheet⟩ := hfirst
          exact Or.inl ⟨root, workbook, sheet, rest, name, sheetName, rfl, hget, hname, hsheets,
            hsheet⟩
        · exact Or.inr (hwork.outcome_of_not_namedSheet hread hfirst)

/-- **One check refuses what the other one reports.** -/
theorem structureViolations_ne_nil_iff (hw : request.WellFormed) :
    structureViolations request ≠ [] ↔
      ∃ e ∈ structuralErrors, (buildWorkbook request).outcome = .error (.build e) := by
  rw [Ne, Validation.structureViolations_eq_nil_iff]
  constructor
  · intro hlacks
    exact (hasStructure_or_refused hw).resolve_left hlacks
  · rintro ⟨e, hmem, hrefused⟩ hstructure
    obtain ⟨first, rest, hnodes, hfirst, houtcome⟩ := outcome_of_hasStructure hw hstructure
    rw [hnodes, hrefused] at houtcome
    exact notMem_structuralErrors_of_sheetsFrom hfirst houtcome.symm hmem

end Request

/-! ### Agreement -/

/-- What validation and building have to do with each other as to the structure of a request. -/
structure StructureAgreement (request : Json) : Prop where
  /-- A request that is built lacks nothing of its structure. -/
  built : ∀ w, (buildWorkbook request).outcome = .ok w → structureViolations request = []
  /-- What lacks something is refused by a check of the structure, and nothing else is. -/
  refused_iff : structureViolations request ≠ [] ↔
    ∃ e ∈ Build.structuralErrors, (buildWorkbook request).outcome = .error (.build e)
  /-- A valid request passes all these checks. -/
  passed : ∀ scan, violations scan request = [] → ∀ e ∈ Build.structuralErrors,
    (buildWorkbook request).outcome ≠ .error (.build e)
  /-- A valid request comes to what its sheets come to, one after the other. -/
  sheets : ∀ scan, violations scan request = [] →
    (buildWorkbook request).outcome = Build.sheetsFrom .empty 0 request.sheets

/-- **Validation and building agree on the structure** of every request. -/
theorem structureAgreement {request : Json} (hw : request.WellFormed) :
    StructureAgreement request := by
  have hstructure : ∀ scan, violations scan request = [] → structureViolations request = [] :=
    fun scan hvalid => (List.append_eq_nil_iff.mp hvalid).2
  refine ⟨fun w hbuilt => ?_, structureViolations_ne_nil_iff hw, fun scan hvalid e hmem he => ?_,
    fun scan hvalid => ?_⟩
  · by_contra hlacks
    obtain ⟨e, -, hrefused⟩ := (structureViolations_ne_nil_iff hw).mp hlacks
    rw [hbuilt] at hrefused
    cases hrefused
  · exact (structureViolations_ne_nil_iff hw).mpr ⟨e, hmem, he⟩ (hstructure scan hvalid)
  · have hhas := (Validation.structureViolations_eq_nil_iff request).mp (hstructure scan hvalid)
    obtain ⟨first, rest, -, -, houtcome⟩ := outcome_of_hasStructure hw hhas
    exact houtcome

/-- A request with two sheets, of which the second has a number for a name. -/
def numberedRequest : Json :=
  .obj [("name", .str "passed over"),
    ("workbook", .obj [
      ("nomeWorkbook", .str "w"),
      ("abas", .arr [
        .obj [("name", .str "a"), ("header", .obj [("columns", .arr [.str "x"])])],
        .obj [("name", .int 2)]])])]

/-- Only the first sheet is checked beforehand; the second is refused when it is built. -/
theorem structureAgreement_numbered :
    numberedRequest.WellFormed ∧ violations true numberedRequest = [] ∧
      (buildWorkbook numberedRequest).outcome
        = .error (.build (.notText "workbook.sheets[1].name")) ∧
      StructureAgreement numberedRequest := by
  have hwell : numberedRequest.WellFormed := by decide
  have hvalid : violations true numberedRequest = [] := by decide +kernel
  have hagree := structureAgreement hwell
  refine ⟨hwell, hvalid, ?_, hagree⟩
  rw [hagree.sheets true hvalid]
  rfl

end Gridwork
