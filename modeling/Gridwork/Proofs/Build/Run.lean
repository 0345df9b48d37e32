import Gridwork.Proofs.Build.Contents
import Gridwork.Proofs.Build.Loop
import Gridwork.Proofs.Json.Exchange

/-!
# The run of a request

Building a request that has a workbook passes over the entries before it, builds the sheets of the
workbook one after the other, and passes over the entries behind it. What passing over does is known
beforehand (`Progress.passOver`), so the whole run is told by the loop over the sheets, begun at
`Json.beforeWorkbook`:

* `Json.HasWorkbook.built_of_error` — if the loop fails, so does the request, with the same error
  and the events up to there;
* `Json.HasWorkbook.built_of_ok` — if it succeeds, the workbook is what it has built.

Another list of sheets changes nothing but the list that the loop goes over
(`Json.HasWorkbook.withSheets`), and every sheet of it that is built is one more sheet of the
workbook (`Build.exists_added_of_run`).
-/

namespace Gridwork

/-- The progress once some keys of a request have been passed over. -/
def Progress.passOver {σ : Type} (p : Progress σ) (entries : Json.Entries) : Progress σ :=
  ⟨p.state, p.events ++ (entries.map fun entry => Event.skippedKey entry.1).toArray⟩

namespace Json

/-- The entries of a request that stand before its workbook. -/
def entriesBefore : Json → Entries
  | .obj entries => entries.takeWhile fun entry => entry.1 != Field.workbook
  | _ => []

/-- The progress with which building comes to the workbook of a request. -/
def beforeWorkbook (request : Json) : Progress Workbook :=
  Progress.passOver ⟨.empty, #[]⟩ request.entriesBefore

/-- The nodes of the sheets of a request. -/
def sheets (request : Json) : List Json := (request.part Field.workbook).sheetNodes

/-- A request with a workbook and the entries before and behind it. -/
structure HasWorkbook (request : Json) (before : Entries) (node : Json) (behind : Entries) :
    Prop where
  eq : request = .obj (before ++ (Field.workbook, node) :: behind)
  before : ∀ entry ∈ before, entry.1 ≠ Field.workbook
  behind : ∀ entry ∈ behind, entry.1 ≠ Field.workbook

end Json

namespace Build

variable {p q : Progress Workbook}

/-- The path under which the sheets of a workbook are reported. -/
abbrev sheetsPath : Text := fieldPath Field.workbook Field.sheets

/-! ### Passing over -/

/-- Entries without a workbook are passed over. -/
theorem run_passOver {entries : Json.Entries} (h : ∀ entry ∈ entries, entry.1 ≠ Field.workbook)
    (first : Nat) (p : Progress Workbook) :
    forEach (fun _ => buildEntry) first entries p = .ok () (p.passOver entries) := by
  induction entries generalizing first p with
  | nil =>
    rw [forEach, Progress.passOver, List.map_nil, Array.append_empty]
    rfl
  | cons entry rest ih =>
    obtain ⟨hentry, hrest⟩ := List.forall_mem_cons.mp h
    have hreport : buildEntry entry p
        = .ok () ⟨p.state, p.events.push (.skippedKey entry.1)⟩ := by
      rw [buildEntry, if_neg hentry]
      rfl
    rw [forEach, bind_of_ok hreport, ih hrest]
    -- its own event comes first
    simp [Progress.passOver]

/-! ### Sheets -/

theorem run_buildWorkbookNode {node : Json} {nodes : List Json}
    (hread : readSheets node = .ok nodes) (p : Progress Workbook) :
    buildWorkbookNode node p = forEach (buildSheetAt sheetsPath) 0 nodes p := by
  rw [buildWorkbookNode, hread, ofExcept, pure_bind]

/-- A workbook without sheets cannot be read. -/
theorem ne_nil_of_read {node : Json} {nodes : List Json} (hread : readSheets node = .ok nodes) :
    nodes ≠ [] := by
  obtain ⟨entries, name, -, -, -, hnonempty⟩ := Json.readSheets_eq_ok_iff.mp hread
  exact hnonempty

/-- Every sheet that is built is one more sheet of the workbook. -/
theorem exists_added_of_run {path : Text} {first : Nat} {nodes : List Json} {u : Unit}
    (h : forEach (buildSheetAt path) first nodes p = .ok u q) :
    ∃ added, q.state.sheets = p.state.sheets ++ added ∧ added.length = nodes.length := by
  -- the invariant counts the sheets from the first index on
  have hends : Ends (forEach (buildSheetAt path) first nodes) p
      (fun _ r => ∃ added, r.state.sheets = p.state.sheets ++ added ∧
        first + added.length = first + nodes.length) fun _ _ => True := by
    refine ends_forEach (fun i (r : Progress Workbook) =>
      ∃ added, r.state.sheets = p.state.sheets ++ added ∧ first + added.length = i)
      ⟨[], (List.append_nil _).symm, Nat.add_zero first⟩ ?_
    rintro j node r - ⟨added, hsheets, hlength⟩
    refine ends_bind ((ends_buildSheet _ node).mono ?_ fun _ _ _ => trivial)
    rintro _ s ⟨form, -, -, -, -, rfl⟩
    refine ends_pure ⟨added ++ [form.sheet (Title.given r.state.titles form.name)], ?_, ?_⟩
    · have hadd : (r.addForms [form]).state.sheets
          = r.state.sheets ++ [form.sheet (Title.given r.state.titles form.name)] := rfl
      rw [hadd, hsheets, List.append_assoc]
    · rw [List.length_append, List.length_singleton]
      omega
  obtain ⟨added, hsheets, hlength⟩ := hends.of_ok h
  exact ⟨added, hsheets, Nat.add_left_cancel hlength⟩

end Build

/-! ### Requests -/

namespace Json

open Build

variable {request node : Json} {before behind : Entries} {nodes : List Json}
  {p q : Progress Workbook} {e : Failure}

/-- The workbook has one spelling. -/
theorem part_workbook {entries : Entries} (h : entries.get? Field.workbook = some node) :
    (obj entries).part Field.workbook = node := by
  have hspellings : Field.spellings Field.workbook = [Field.workbook] := by decide
  simp [part, Entries.field, Entries.field?, hspellings, h]

/-- A request with an entry for its workbook. -/
theorem exists_hasWorkbook_of_get? {entries : Entries} (hw : (obj entries).WellFormed)
    (hget : entries.get? Field.workbook = some node) :
    ∃ before behind, (obj entries).HasWorkbook before node behind := by
  have hdistinct := ((wellFormed_obj_iff entries).mp hw).1
  obtain ⟨before, behind, hsplit, hbefore⟩ := List.lookup_eq_some_iff.mp hget
  refine ⟨before, behind, congrArg Json.obj hsplit, fun entry he heq => ?_,
    fun entry he heq => ?_⟩
  · have hne := hbefore entry he
    rw [heq, bne_self_eq_false] at hne
    cases hne
  · -- the key is not repeated
    rw [hsplit, Entries.Distinct, List.map_append, List.map_cons, List.nodup_append] at hdistinct
    have hfresh := (List.nodup_cons.mp hdistinct.2.1).1
    exact hfresh (List.mem_map.mpr ⟨entry, he, heq⟩)

/-- A request whose workbook has sheets has a workbook. -/
theorem exists_hasWorkbook (hw : request.WellFormed)
    (hread : readSheets (request.part Field.workbook) = .ok nodes) :
    ∃ before behind, request.HasWorkbook before (request.part Field.workbook) behind := by
  cases request with
  | null | bool | int | float | str | arr => cases hread
  | obj entries =>
    -- null is no workbook
    cases hlookup : Entries.get? entries Field.workbook with
    | none =>
      have hspellings : Field.spellings Field.workbook = [Field.workbook] := by decide
      simp [part, Entries.field, Entries.field?, hspellings, hlookup, readSheets] at hread
    | some node =>
      rw [part_workbook hlookup]
      exact exists_hasWorkbook_of_get? hw hlookup

namespace HasWorkbook

theorem notMem_keys (h : request.HasWorkbook before node behind) :
    Field.workbook ∉ before.map Prod.fst := by
  intro hmem
  obtain ⟨entry, he, heq⟩ := List.mem_map.mp hmem
  exact h.before entry he heq

theorem get?_eq (h : request.HasWorkbook before node behind) :
    Entries.get? (before ++ (Field.workbook, node) :: behind) Field.workbook = some node :=
  List.lookup_eq_some_iff.mpr ⟨before, behind, rfl, fun entry he =>
    bne_iff_ne.mpr (Ne.symm (h.before entry he))⟩

theorem part_eq (h : request.HasWorkbook before node behind) :
    request.part Field.workbook = node := by
  rw [h.eq, part_workbook h.get?_eq]

theorem beforeWorkbook_eq (h : request.HasWorkbook before node behind) :
    request.beforeWorkbook = Progress.passOver ⟨.empty, #[]⟩ before := by
  have hbefore : ∀ entry ∈ before, (entry.1 != Field.workbook) = true :=
    fun entry he => bne_iff_ne.mpr (h.before entry he)
  rw [beforeWorkbook, h.eq, entriesBefore, List.takeWhile_append_of_pos hbefore,
    List.takeWhile_cons_of_neg (by simp), List.append_nil]

/-- Other sheets change the workbook of a request and nothing else. -/
theorem withSheets (h : request.HasWorkbook before node behind) (sheets : List Json) :
    (request.withSheets sheets).HasWorkbook before (node.exchange Field.sheets (.arr sheets))
      behind := by
  refine ⟨?_, h.before, h.behind⟩
  rw [Json.withSheets, h.part_eq, h.eq, exchange_obj]
  -- the workbook has one spelling, which is present
  have hspellings : Field.spellings Field.workbook = [Field.workbook] := by decide
  have hset := Entries.set_append_cons h.notMem_keys node
    (node.exchange Field.sheets (.arr sheets)) behind
  simp [Entries.exchange, hspellings, h.get?_eq, hset]

/-- The entries before the workbook are passed over, then the workbook is built. -/
theorem run_buildRequest (h : request.HasWorkbook before node behind) :
    buildRequest request ⟨.empty, #[]⟩
      = ((buildWorkbookNode node >>= fun _ => forEach (fun _ => buildEntry) (before.length + 1)
          behind) >>= fun _ => do
            if (← get).state.sheets.isEmpty then stop .workbookMissing)
        (Progress.passOver ⟨.empty, #[]⟩ before) := by
  have hentry : buildEntry (Field.workbook, node) = buildWorkbookNode node := if_pos rfl
  rw [h.eq, buildRequest, forEach_append, bind_assoc, bind_of_ok (run_passOver h.before 0 _),
    forEach, hentry, Nat.zero_add]

/-- **A failing loop over the sheets** fails the request. -/
theorem built_of_error (h : request.HasWorkbook before node behind)
    (hread : readSheets node = .ok nodes)
    (hrun : forEach (buildSheetAt sheetsPath) 0 nodes request.beforeWorkbook = .error e q) :
    buildWorkbook request = ⟨.error e, q.events.toList⟩ := by
  rw [h.beforeWorkbook_eq, ← run_buildWorkbookNode hread] at hrun
  have hrequest : buildRequest request ⟨.empty, #[]⟩ = .error e q := by
    rw [h.run_buildRequest]
    exact bind_of_error (bind_of_error hrun _) _
  rw [buildWorkbook, hrequest]

/-- **A loop over the sheets that succeeds** has built the workbook. -/
theorem built_of_ok (h : request.HasWorkbook before node behind)
    (hread : readSheets node = .ok nodes) {u : Unit}
    (hrun : forEach (buildSheetAt sheetsPath) 0 nodes request.beforeWorkbook = .ok u q) :
    buildWorkbook request = ⟨.ok q.state, (q.passOver behind).events.toList⟩ := by
  -- there is a sheet, since a workbook without sheets cannot be read
  have hsheets : q.state.sheets.isEmpty = false := by
    obtain ⟨added, hadded, hlength⟩ := exists_added_of_run hrun
    rw [hadded, List.isEmpty_eq_false_iff]
    intro hnil
    rw [(List.append_eq_nil_iff.mp hnil).2] at hlength
    exact ne_nil_of_read hread (List.length_eq_zero_iff.mp hlength.symm)
  rw [h.beforeWorkbook_eq, ← run_buildWorkbookNode hread] at hrun
  have hentries : (buildWorkbookNode node >>= fun _ => forEach (fun _ => buildEntry)
      (before.length + 1) behind) (Progress.passOver ⟨.empty, #[]⟩ before)
        = .ok () (q.passOver behind) := by
    rw [bind_of_ok hrun, run_passOver h.behind]
  have hrequest : buildRequest request ⟨.empty, #[]⟩ = .ok () (q.passOver behind) := by
    rw [h.run_buildRequest, bind_of_ok hentries]
    -- looking whether there are sheets finds some
    rw [bind_of_ok (run_get _)]
    have hstate : (q.passOver behind).state.sheets.isEmpty = false := hsheets
    rw [if_neg (by rw [hstate]; decide)]
    rfl
  rw [buildWorkbook, hrequest]
  rfl

end HasWorkbook

end Json

end Gridwork
