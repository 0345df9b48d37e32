import Gridwork.Proofs.Build.Contents
import Gridwork.Proofs.Build.Range
import Gridwork.Proofs.Formula.Sanitizing
import Gridwork.Proofs.Http.Sending
import Gridwork.Proofs.Json.Reader
import Gridwork.Proofs.Service.Generation
import Gridwork.Proofs.Workbook.Saving

/-!
# Which requests are answered

As long as nothing is stored, a generation is meant to end in a workbook, in violations, or in an
error of building that has a wording: `Service.Answered`. It does not always. No check looks at what
a file can hold, so a request may pass all of them and describe values that cannot be saved:

* a number that is too large for a double,
* a value in a column that has no name,
* a value beyond the last row.

Such a request is `Service.Unsavable`, and it is not answered: the client is told of an internal
error. `generate_answered` says so, and that every other request is answered for which there is
room, provided no sheet has more data rows than fit. `oneValueRequest_unanswered` is about a request
that is not.
-/

namespace Gridwork

/-! ### What can be saved -/

/-- A form whose values all have a place in a file and can be written there. -/
structure SheetForm.Storable (form : SheetForm) : Prop where
  row : ∀ row column v, form.value? row column = some v → row ≤ Cell.maxRow
  column : ∀ row column v, form.value? row column = some v → column ≤ Document.maxColumn
  content : ∀ row column v, form.value? row column = some v → v.content.Storable

/-- A request whose sheets can all be saved. -/
def Json.Storable (request : Json) : Prop :=
  ∀ forms, request.DescribesRequest forms → ∀ form ∈ forms, form.Storable

/-- Forms that can be saved make a workbook that can. -/
theorem Workbook.exists_save_addForms {forms : List SheetForm} (hne : forms ≠ [])
    (h : ∀ form ∈ forms, form.Storable) : ∃ d, (empty.addForms forms).save = .ok d := by
  rw [exists_save_iff]
  refine ⟨fun hnil => hne ?_, fun s hs c hc => ?_⟩
  · have hlen := length_addForms empty forms
    rw [hnil] at hlen
    exact List.eq_nil_of_length_eq_zero (hlen.trans (Nat.zero_add _)).symm
  · obtain ⟨form, hform, titles, rfl⟩ := mem_sheets_addForms hs
    obtain ⟨row, column, v, hv, rfl⟩ := SheetForm.mem_cells_sheet_iff.mp hc
    exact ⟨(h form hform).column row column v hv, (h form hform).content row column v hv⟩

/-- A workbook that was built and saved has all its values in place. -/
theorem storable_of_saved {request : Json} {w : Workbook} {d : Document} (hw : request.WellFormed)
    (hbuilt : (buildWorkbook request).outcome = .ok w) (hsave : w.save = .ok d) :
    request.Storable := by
  obtain ⟨forms, hforms, -, rfl⟩ := eq_addForms_of_built hw hbuilt
  intro forms' hforms' form hform
  obtain rfl := hforms.unique hforms'
  have hrows := rows_of_built hbuilt
  have hcells := ((Workbook.exists_save_iff _).mp ⟨d, hsave⟩).2
  obtain ⟨s, hs, title, rfl⟩ := Workbook.exists_sheet_of_form hform
  -- every value of the form is a cell of its sheet
  have hmem : ∀ row column v, form.value? row column = some v →
      ⟨row, column, v.content, form.style? row⟩ ∈ (form.sheet title).cells.toList :=
    fun row column v hv => SheetForm.mem_cells_sheet_iff.mpr ⟨row, column, v, hv, rfl⟩
  exact ⟨fun row column v hv => hrows _ hs _ (hmem row column v hv),
    fun row column v hv => (hcells _ hs _ (hmem row column v hv)).column,
    fun row column v hv => (hcells _ hs _ (hmem row column v hv)).content⟩

namespace Service

/-! ### The ends of a generation -/

/-- The ends that a generation is meant to have: a workbook, violations, or an error of building
that has a wording. -/
def Answered : Except ServiceError Generated → Prop
  | .ok _ => True
  | .error (.invalid _) => True
  | .error (.failure (.build e)) => e.isWorded = true
  | .error _ => False

/-- A request that passes all checks and describes a workbook. -/
structure Accepted (settings : Settings) (request : Json) : Prop where
  valid : check settings request = []
  bounded : rowExcess? settings.maxRowsPerSheet request.sanitizeFormulas = none
  buildable : request.sanitizeFormulas.Buildable

/-- A request that passes all checks and describes a workbook that no file can hold. -/
structure Unsavable (settings : Settings) (request : Json) : Prop where
  accepted : Accepted settings request
  not_storable : ¬ request.sanitizeFormulas.Storable

variable {settings : Settings} {request : Json}

/-- Something goes wrong with an unsavable request after all checks. -/
theorem Unsavable.prepare (h : Unsavable settings request) (hw : request.WellFormed) :
    (prepare settings request).outcome = .error (.failure .rowOutOfRange) ∨
      ∃ e, (prepare settings request).outcome = .error (.save e) := by
  have hends := prepare_cases settings request
  generalize (Service.prepare settings request).outcome = outcome at hends
  cases hends with
  | invalid hinvalid => exact absurd h.accepted.valid hinvalid
  | excess _ hexcess =>
    rw [h.accepted.bounded] at hexcess
    cases hexcess
  | @notBuilt e _ _ hbuilt =>
    -- what can be built is refused only for want of rows
    rcases buildWorkbook_cases hw.sanitizeFormulas with ⟨w, hok, -⟩ | ⟨e', he', hrefused⟩
    · rw [hok] at hbuilt
      cases hbuilt
    · obtain rfl : e' = e := Except.error.inj (he'.symm.trans hbuilt)
      obtain ⟨forms, hforms, hfit⟩ := h.accepted.buildable
      rcases hrefused with ⟨b, -, hnot⟩ | ⟨rfl, -⟩
      · exact absurd hfit (hnot forms hforms)
      · exact Or.inl rfl
  | @notSaved w e _ _ _ _ => exact Or.inr ⟨e, rfl⟩
  | saved _ _ hbuilt hsave =>
    exact absurd (storable_of_saved hw.sanitizeFormulas hbuilt hsave) h.not_storable

/-- With enough rows, every other request ends as it is meant to, if its numbers can be shown. -/
theorem answered_prepare (hw : request.WellFormed) (hwritable : request.isWritable = true)
    (hrows : request.sanitizeFormulas.RowsFit) (h : ¬ Unsavable settings request)
    (filename : String) :
    Answered ((Service.prepare settings request).outcome.map fun d => ⟨filename, d, none⟩) := by
  have hends := prepare_cases settings request
  have hworded : ∀ e, (Service.prepare settings request).outcome = .error (.failure (.build e)) →
      e.isWorded = true := fun e he =>
    BuildError.isWorded_of_shows (shows_of_prepare Json.hereditary_isWritable hwritable he)
  generalize (Service.prepare settings request).outcome = outcome at hends hworded
  cases hends with
  | invalid => trivial
  | excess => exact hworded _ rfl
  | @notBuilt e _ _ hbuilt =>
    rcases buildWorkbook_cases hw.sanitizeFormulas with ⟨w, hok, -⟩ | ⟨e', he', hrefused⟩
    · rw [hok] at hbuilt
      cases hbuilt
    · obtain rfl : e' = e := Except.error.inj (he'.symm.trans hbuilt)
      obtain ⟨⟨b, rfl⟩, -⟩ := hrefused.build hrows
      exact hworded b rfl
  | @notSaved w e hvalid hbounded hbuilt hsave =>
    -- the workbook was built, so only a value without a place can be in the way
    obtain ⟨forms, hforms, hfit, rfl⟩ := eq_addForms_of_built hw.sanitizeFormulas hbuilt
    refine absurd ⟨⟨hvalid, hbounded, forms, hforms, hfit⟩, fun hstorable => ?_⟩ h
    obtain ⟨d, hd⟩ := Workbook.exists_save_addForms hforms.ne_nil (hstorable forms hforms)
    rw [hd] at hsave
    cases hsave
  | saved => trivial

end Service

/-! ### The endpoint -/

namespace Http

/-- What holds of all that is read from a text holds of all that is read from a body. -/
theorem readProperty_of_readBody {P : Json → Prop} (hP : Json.ReadProperty P)
    {bound : Option Nat} {body : List UInt8} {request : Json}
    (h : readBody bound body = .ok request) : P request := by
  unfold readBody at h
  split at h
  · cases h
  · split at h
    · next v hparse =>
      obtain rfl := Except.ok.inj h
      exact hP.of_parseUnmarked hparse
    all_goals cases h

/-- The status tells whether a generation ended as it is meant to. -/
theorem Response.status_ofResult (result : Except ServiceError Generated) :
    (Service.Answered result → (ofResult result).status = 200 ∨ (ofResult result).status = 400) ∧
      (¬ Service.Answered result → (ofResult result).status = 500) := by
  cases result with
  | ok g => exact ⟨fun _ => Or.inl rfl, fun h => absurd trivial h⟩
  | error e =>
    cases e with
    | invalid found => exact ⟨fun _ => Or.inr rfl, fun h => absurd trivial h⟩
    | save e => exact ⟨fun h => h.elim, fun _ => rfl⟩
    | failure f =>
      cases f with
      | build b =>
        -- without a wording the client is told nothing
        have hresponse : ofResult (.error (.failure (.build b))) = notBuilt b := rfl
        have hanswered : Service.Answered (.error (.failure (.build b)))
            ↔ b.message?.isSome = true := Iff.rfl
        rw [hresponse, notBuilt, hanswered]
        cases b.message? with
        | some message => exact ⟨fun _ => Or.inr rfl, fun h => absurd rfl h⟩
        | none => exact ⟨fun h => (Bool.false_ne_true h).elim, fun _ => rfl⟩
      | rowOutOfRange => exact ⟨fun h => h.elim, fun _ => rfl⟩
      | untitled e => exact ⟨fun h => h.elim, fun _ => rfl⟩
    | store f => cases f <;> exact ⟨fun h => h.elim, fun _ => rfl⟩

/-- A request that is a call of the generate endpoint. -/
def Request.IsCall (request : Request) : Prop :=
  Route.ofPath? request.path = some .generate ∧ request.method = .post

instance : DecidablePred Request.IsCall := fun _ => inferInstanceAs (Decidable (_ ∧ _))

/-- The endpoint is open whatever the settings. -/
theorem Server.answer_of_isCall {request : Request} (h : request.IsCall) (server : Server) :
    server.answer request
      = ((server.generate request.body).1, (server.generate request.body).2.sent) := by
  obtain ⟨hpath, hmethod⟩ := h
  have hroute : server.route? request = some .generate := by
    rw [route?, hpath]
    rfl
  have haccepts : Route.generate.accepts request.method = true := by
    rw [hmethod]
    rfl
  have hdispatch : server.dispatch request = server.generate request.body := by
    rw [dispatch, hroute]
    dsimp only
    rw [if_pos haccepts]
    rfl
  have hbody : ¬ request.method = .head := by
    rw [hmethod]
    decide
  rw [answer, hdispatch]
  dsimp only
  rw [if_neg hbody]

section Call

variable {server : Server} {path : String} {body : List UInt8} {request : Json} {tally : Tally}

/-- A body that can be read is answered with what the service makes of it, if there is room. -/
theorem Server.generateFrom_of_read (hread : readBody server.room.reading body = .ok request)
    (hfits : request.fits server.room.generating = true) :
    server.generateFrom body =
      ({ server with
          files := (Service.generate server.settings server.files request none).files },
        .ofResult (Service.generate server.settings server.files request none).result) := by
  rw [generateFrom, hread]
  dsimp only
  rw [if_pos hfits]
  cases (Service.generate server.settings server.files request none).result with
  | ok g => rfl
  | error e => rfl

/-- A call of the generate endpoint that is not one too many. -/
theorem Server.answer_call (hpath : Route.ofPath? path = some .generate)
    (hcall : server.tally.hit (RateLimit.readAll server.settings.generateRateLimit)
      = (tally, .allowed)) :
    (server.answer ⟨.post, path, body⟩).2 = (generateFrom { server with tally } body).2.sent := by
  have hrequest : Request.IsCall ⟨.post, path, body⟩ := ⟨hpath, rfl⟩
  rw [answer_of_isCall hrequest, generate, hcall]

/-- It is answered with what the service makes of its body, if there is room. -/
theorem Server.answer_generate (hpath : Route.ofPath? path = some .generate)
    (hcall : server.tally.hit (RateLimit.readAll server.settings.generateRateLimit)
      = (tally, .allowed)) (hread : readBody server.room.reading body = .ok request)
    (hfits : request.fits server.room.generating = true) :
    (server.answer ⟨.post, path, body⟩).2
      = (Response.ofResult
          (Service.generate server.settings server.files request none).result).sent := by
  have hgenerate := @generateFrom_of_read { server with tally } _ _ hread hfits
  rw [answer_call hpath hcall, hgenerate]

/-- Where there is no room for the request, nothing is made of it. -/
theorem Server.answer_generate_of_not_fits (hpath : Route.ofPath? path = some .generate)
    (hcall : server.tally.hit (RateLimit.readAll server.settings.generateRateLimit)
      = (tally, .allowed)) (hread : readBody server.room.reading body = .ok request)
    (hfits : ¬ request.fits server.room.generating = true) :
    (server.answer ⟨.post, path, body⟩).2 = .internalError := by
  rw [answer_call hpath hcall, generateFrom]
  dsimp only
  rw [hread]
  dsimp only
  rw [if_neg hfits]
  rfl

end Call

end Http

/-! ### The result -/

/-- **Which requests are answered.** For every body that can be read: if its request is unsavable,
then it is not answered as it is meant to be, and a call of the endpoint ends in an internal error;
otherwise it is answered, and the call ends in success or in the client's error, provided there is
room for the request and no sheet has more data rows than fit. A call ends in an internal error too
where there is no room for the request, and where the answer has a text that cannot be sent; it has
none if the texts of the request can all be encoded. -/
theorem Service.generate_answered {room : Room} {body : List UInt8} {request : Json}
    (hread : Http.readBody room.reading body = .ok request) (settings : Settings) :
    (∀ files persist, keeps settings persist = false →
      (Unsavable settings request → ¬ Answered (generate settings files request persist).result) ∧
      (¬ Unsavable settings request → request.fits room.generating = true →
        request.sanitizeFormulas.RowsFit →
          Answered (generate settings files request persist).result)) ∧
    (∀ (server : Http.Server) path tally, server.room = room → server.settings = settings →
      settings.persistGenerated = false → Http.Route.ofPath? path = some .generate →
      server.tally.hit (Http.RateLimit.readAll settings.generateRateLimit) = (tally, .allowed) →
      (Unsavable settings request → (server.answer ⟨.post, path, body⟩).2.status = 500) ∧
      (¬ request.fits room.generating = true →
        (server.answer ⟨.post, path, body⟩).2.status = 500) ∧
      (¬ (Http.Response.ofResult
          (generate settings server.files request none).result).isEncodable = true →
        (server.answer ⟨.post, path, body⟩).2.status = 500) ∧
      (¬ Unsavable settings request → request.fits room.generating = true →
        (Http.Response.ofResult
          (generate settings server.files request none).result).isEncodable = true →
        request.sanitizeFormulas.RowsFit →
          (server.answer ⟨.post, path, body⟩).2.status = 200 ∨
            (server.answer ⟨.post, path, body⟩).2.status = 400)) ∧
    (request.isEncodable = true → ∀ files persist,
      (Http.Response.ofResult
        (generate settings files request persist).result).isEncodable = true) := by
  have hw := Http.readProperty_of_readBody Json.readProperty_wellFormed hread
  have hwritable := Http.readProperty_of_readBody Json.readProperty_isWritable hread
  have hservice : ∀ files persist, keeps settings persist = false →
      (Unsavable settings request → ¬ Answered (generate settings files request persist).result) ∧
      (¬ Unsavable settings request → request.sanitizeFormulas.RowsFit →
        Answered (generate settings files request persist).result) := by
    intro files persist hkeep
    rw [generate_of_not_kept hkeep]
    refine ⟨fun hunsavable => ?_, fun hsavable hrows =>
      answered_prepare hw hwritable hrows hsavable _⟩
    rcases hunsavable.prepare hw with h | ⟨e, h⟩
    · rw [h]
      exact id
    · rw [h]
      exact id
  refine ⟨fun files persist hkeep => ?_, ?_, fun hencodable files persist =>
    Http.Response.isEncodable_ofResult hencodable settings files persist⟩
  · obtain ⟨hnot, hanswered⟩ := hservice files persist hkeep
    exact ⟨hnot, fun hsavable _ hrows => hanswered hsavable hrows⟩
  rintro server path tally rfl rfl hkeep hpath hcall
  obtain ⟨hnot, hanswered⟩ := hservice server.files none hkeep
  obtain ⟨hgood, hbad⟩ := Http.Response.status_ofResult
    (generate server.settings server.files request none).result
  have hnoroom : ¬ request.fits server.room.generating = true →
      (server.answer ⟨.post, path, body⟩).2.status = 500 := by
    intro hfits
    rw [Http.Server.answer_generate_of_not_fits hpath hcall hread hfits]
    rfl
  refine ⟨fun hunsavable => ?_, hnoroom, fun hunsendable => ?_,
    fun hsavable hfits hsendable hrows => ?_⟩
  · by_cases hfits : request.fits server.room.generating = true
    · -- an internal error is sent as such
      rw [Http.Server.answer_generate hpath hcall hread hfits]
      have hstatus := hbad (hnot hunsavable)
      exact (Http.Response.status_sent _).elim (·.trans hstatus) id
    · exact hnoroom hfits
  · by_cases hfits : request.fits server.room.generating = true
    · rw [Http.Server.answer_generate hpath hcall hread hfits,
        Http.Response.sent_of_not_isEncodable hunsendable]
      rfl
    · exact hnoroom hfits
  · rw [Http.Server.answer_generate hpath hcall hread hfits,
      Http.Response.sent_of_isEncodable hsendable]
    exact hgood (hanswered hsavable hrows)

/-! ### A number that is too large -/

/-- A request with one value. -/
def oneValueRequest (n : Int) : Json :=
  .obj [("workbook", .obj [("name", .str "q"), ("sheets", .arr [.obj [("name", .str "a"),
    ("header", .obj [("columns", .arr [.str "c"])]), ("rows", .arr [.obj [("c", .int n)]])]])])]

/-- What a request with one value describes. -/
def oneValueForm (n : Int) : SheetForm :=
  ⟨"a", ⟨.headerDefault, [.str "c"]⟩, [⟨none, [("c", .int n)]⟩]⟩

theorem describesRequest_oneValue (n : Int) :
    (oneValueRequest n).DescribesRequest [oneValueForm n] := by
  have hlabel : (Json.str "c").IsLabel := show Cell.Legible "c" by decide
  have hheader : (Json.obj [("columns", .arr [.str "c"])]).DescribesHeader
      ⟨.headerDefault, [.str "c"]⟩ :=
    .obj rfl (List.forall_mem_singleton.mpr hlabel) (.absent rfl)
  have hrow : (Json.obj [("c", .int n)]).DescribesRow ⟨none, [("c", .int n)]⟩ :=
    .obj (.absent rfl) (List.forall_mem_singleton.mpr trivial)
  have hvalid : ∀ c ∈ ("a" : Text).toList, Title.isInvalidChar c = false := by decide
  have hname : ("a" : Text) ≠ "" := by decide
  exact .obj rfl (.obj rfl rfl (by simp)
    (.cons (.obj rfl hname hvalid hheader (.arr (.cons hrow .nil))) .nil))

/-- The text of a request whose value is a one and zeros. -/
def zerosBody (zeros : Nat) : List UInt8 :=
  ("\x7b\"workbook\":\x7b\"name\":\"q\",\"sheets\":[\x7b\"name\":\"a\",".toList
    ++ "\"header\":\x7b\"columns\":[\"c\"]\x7d,\"rows\":[\x7b\"c\":1".toList
    ++ List.replicate zeros '0' ++ "\x7d]\x7d]\x7d\x7d".toList).map fun c => UInt8.ofNat c.toNat

theorem readBody_zerosBody :
    Http.readBody none (zerosBody 400) = .ok (oneValueRequest (10 ^ 400)) := by
  decide +kernel

/-- A one with four hundred zeros passes all checks and cannot be saved. -/
theorem Service.generate_answered_zeros :
    Http.readBody none (zerosBody 400) = .ok (oneValueRequest (10 ^ 400)) ∧
      Unsavable .defaults (oneValueRequest (10 ^ 400)) ∧
        ((Http.Server.start .unbounded .defaults .empty).answer
          ⟨.post, "/api/spreadsheet/generate", zerosBody 400⟩).2.status = 500 := by
  have hforms : (oneValueRequest (10 ^ 400)).sanitizeFormulas.DescribesRequest
      [oneValueForm (10 ^ 400)] := describesRequest_oneValue (10 ^ 400)
  have hunsavable : Unsavable .defaults (oneValueRequest (10 ^ 400)) := by
    refine ⟨⟨by decide +kernel, rfl, _, hforms, ?_⟩, fun hstorable => ?_⟩
    · -- a first title always fits
      intro i name hi htaken
      cases i with
      | zero =>
        obtain ⟨title, htitle, -⟩ := htaken
        cases htitle
      | succ i => cases hi
    · have hcontent := (hstorable _ hforms _ List.mem_cons_self).content 2 1 (.int (10 ^ 400)) rfl
      exact absurd hcontent (by
        change ¬ (10 ^ 400 : Int).natAbs < 2 ^ 1024 - 2 ^ 970
        decide +kernel)
  have hcall := (@generate_answered .unbounded _ _ readBody_zerosBody .defaults).2.1
    (.start .unbounded .defaults .empty) "/api/spreadsheet/generate" [(⟨60, 1, .minute⟩, 1)]
    rfl rfl rfl (by decide) (by decide +kernel)
  exact ⟨readBody_zerosBody, hunsavable, hcall.1 hunsavable⟩

/-- A request that can be read is answered with an internal error. -/
theorem oneValueRequest_unanswered :
    Http.readBody none (zerosBody 400) = .ok (oneValueRequest (10 ^ 400)) ∧
      (Service.generate .defaults .empty (oneValueRequest (10 ^ 400)) none).result
        = .error (.save .numberTooLarge) ∧
        ((Http.Server.start .unbounded .defaults .empty).answer
          ⟨.post, "/api/spreadsheet/generate", zerosBody 400⟩).2.status = 500 := by
  have hresult : (Service.generate .defaults .empty (oneValueRequest (10 ^ 400)) none).result
      = .error (.save .numberTooLarge) := by
    decide +kernel
  -- the first call is within every limit
  have hcall : (Http.Server.start .unbounded .defaults .empty).tally.hit
      (Http.RateLimit.readAll Settings.defaults.generateRateLimit)
        = ([(⟨60, 1, .minute⟩, 1)], .allowed) := by
    decide +kernel
  have hpath : Http.Route.ofPath? "/api/spreadsheet/generate" = some .generate := by decide
  have hanswer := Http.Server.answer_generate hpath hcall readBody_zerosBody rfl
  refine ⟨readBody_zerosBody, hresult, ?_⟩
  rw [hanswer]
  change (Http.Response.ofResult (Service.generate .defaults .empty _ none).result).sent.status
    = 500
  rw [hresult]
  rfl

end Gridwork
