import Gridwork.Service

/-!
# From a request to its document

`Service.prepare` goes through its checks in a fixed order and then builds and saves the cleaned
copy of the request. `prepare_cases` says what can come of it, one case for every way it ends;
`prepare_eq_ok` says what a document that comes of it stems from. `Service.generate` hands the
document on unchanged, under the file name that was derived from the request as it came
(`generate_eq_ok`).
-/

namespace Gridwork.Service

variable {settings : Settings} {request : Json}

/-- The ways in which preparing a request ends. -/
inductive PrepareEnds (settings : Settings) (request : Json) :
    Except ServiceError Document → Prop
  | invalid (h : check settings request ≠ []) :
      PrepareEnds settings request (.error (.invalid (check settings request)))
  | excess {e : BuildError} (hvalid : check settings request = [])
      (h : rowExcess? settings.maxRowsPerSheet request.sanitizeFormulas = some e) :
      PrepareEnds settings request (.error (.failure (.build e)))
  | notBuilt {e : Failure} (hvalid : check settings request = [])
      (hrows : rowExcess? settings.maxRowsPerSheet request.sanitizeFormulas = none)
      (h : (buildWorkbook request.sanitizeFormulas).outcome = .error e) :
      PrepareEnds settings request (.error (.failure e))
  | notSaved {w : Workbook} {e : SaveError} (hvalid : check settings request = [])
      (hrows : rowExcess? settings.maxRowsPerSheet request.sanitizeFormulas = none)
      (hbuilt : (buildWorkbook request.sanitizeFormulas).outcome = .ok w)
      (h : w.save = .error e) : PrepareEnds settings request (.error (.save e))
  | saved {w : Workbook} {d : Document} (hvalid : check settings request = [])
      (hrows : rowExcess? settings.maxRowsPerSheet request.sanitizeFormulas = none)
      (hbuilt : (buildWorkbook request.sanitizeFormulas).outcome = .ok w)
      (h : w.save = .ok d) : PrepareEnds settings request (.ok d)

theorem prepare_cases (settings : Settings) (request : Json) :
    PrepareEnds settings request (prepare settings request).outcome := by
  have hfound : violations settings.scanBusinessData request.sanitizeFormulas
      = check settings request := rfl
  unfold prepare
  dsimp only
  rw [hfound]
  by_cases hvalid : check settings request = []
  · rw [if_pos (List.isEmpty_iff.mpr hvalid)]
    cases hrows : rowExcess? settings.maxRowsPerSheet request.sanitizeFormulas with
    | some e => exact .excess hvalid hrows
    | none =>
      dsimp only
      unfold assemble
      dsimp only
      -- building comes before saving, and each can fail
      cases hbuilt : (buildWorkbook request.sanitizeFormulas).outcome with
      | error e => exact .notBuilt hvalid hrows hbuilt
      | ok w =>
        dsimp only
        cases hsave : w.save with
        | error e => exact .notSaved hvalid hrows hbuilt hsave
        | ok d => exact .saved hvalid hrows hbuilt hsave
  · rw [if_neg (mt List.isEmpty_iff.mp hvalid)]
    exact .invalid hvalid

theorem prepare_eq_ok {d : Document} (h : (prepare settings request).outcome = .ok d) :
    check settings request = [] ∧
      ∃ w, (buildWorkbook request.sanitizeFormulas).outcome = .ok w ∧ w.save = .ok d := by
  have hends := prepare_cases settings request
  rw [h] at hends
  cases hends with
  | saved hvalid _ hbuilt hsave => exact ⟨hvalid, _, hbuilt, hsave⟩

@[simp] theorem deliver_result (files : FileSystem FileContent) (filename : String) (d : Document)
    (events : List Event) :
    (deliver files filename d events).result = .ok ⟨filename, d, none⟩ := rfl

/-- A kept workbook is answered with only if it could be stored, and then as it is. -/
theorem deliverKept_eq_ok {files : FileSystem FileContent} {filename : String} {d : Document}
    {events : List Event} {g : Generated}
    (h : (deliverKept settings files filename d events).result = .ok g) :
    g.filename = filename ∧ g.document = d := by
  unfold deliverKept at h
  generalize Deposit.make files settings.templatesDir filename (.workbook d) = deposit at h
  dsimp only at h
  cases hstored : deposit.result with
  | error e =>
    rw [hstored] at h
    cases h
  | ok path =>
    rw [hstored] at h
    obtain rfl := Except.ok.inj h
    exact ⟨rfl, rfl⟩

/-- An answer holds the document that was prepared. -/
theorem generate_eq_ok {files : FileSystem FileContent} {persist : Option Bool} {g : Generated}
    (h : (generate settings files request persist).result = .ok g) :
    g.filename = Filename.derive request ∧ (prepare settings request).outcome = .ok g.document := by
  unfold generate at h
  dsimp only at h
  cases hprepared : (prepare settings request).outcome with
  | error e =>
    rw [hprepared] at h
    cases h
  | ok d =>
    rw [hprepared] at h
    dsimp only at h
    by_cases hkeep : keeps settings persist = true
    · rw [if_pos hkeep] at h
      obtain ⟨hname, hdocument⟩ := deliverKept_eq_ok h
      exact ⟨hname, by rw [hdocument]⟩
    · rw [if_neg hkeep, deliver_result] at h
      have hg : (⟨Filename.derive request, d, none⟩ : Generated) = g := Except.ok.inj h
      subst hg
      dsimp only
      exact ⟨rfl, rfl⟩

/-- Where nothing is kept, the answer is the prepared one. -/
theorem generate_of_not_kept {persist : Option Bool} (h : keeps settings persist = false)
    (files : FileSystem FileContent) :
    (generate settings files request persist).result
      = (prepare settings request).outcome.map fun d => ⟨Filename.derive request, d, none⟩ := by
  unfold generate
  dsimp only
  rw [h]
  cases (prepare settings request).outcome with
  | error e => rfl
  | ok d => exact deliver_result _ _ _ _

/-- Where nothing is kept, the files stay as they are. -/
theorem files_of_not_kept {persist : Option Bool} (h : keeps settings persist = false)
    (files : FileSystem FileContent) : (generate settings files request persist).files = files := by
  unfold generate
  dsimp only
  rw [h]
  cases (prepare settings request).outcome with
  | error e => rfl
  | ok d => rfl

/-- What was not prepared is not stored. -/
theorem generate_of_error {e : ServiceError} (h : (prepare settings request).outcome = .error e)
    (files : FileSystem FileContent) (persist : Option Bool) :
    (generate settings files request persist).result = .error e ∧
      (generate settings files request persist).files = files := by
  unfold generate
  dsimp only
  rw [h]
  exact ⟨rfl, rfl⟩

/-- What was prepared is delivered, and kept or not. -/
theorem generate_of_ok {d : Document} (h : (prepare settings request).outcome = .ok d)
    (files : FileSystem FileContent) (persist : Option Bool) :
    generate settings files request persist
      = if keeps settings persist then
          deliverKept settings files (Filename.derive request) d (prepare settings request).events
        else deliver files (Filename.derive request) d (prepare settings request).events := by
  unfold generate
  dsimp only
  rw [h]

end Gridwork.Service
