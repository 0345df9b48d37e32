import Gridwork.Proofs.Service.Persistence

/-!
# All entry points agree

A request can be checked and turned into a workbook by a call of the service, over the web and from
the command line. The verdict is the same everywhere, that of `Service.check`: no way leads past it
and nothing that comes later hides it (`Service.generate_eq_invalid_iff`). And what the verdict lets
pass, with nothing else in the way (`Service.Makes`), is delivered as the same document under the
same name everywhere.

`entryPoints_agree` puts this together; its three parts are `Service.Agrees`, `Http.Agrees` and
`Cli.Agrees`. The endpoints cannot tell a verdict with a text that cannot be encoded
(`Http.Sendable`); `halfRequest_unlisted` is about such a request.
-/

namespace Gridwork

/-! ### The service -/

namespace Service

variable {settings : Settings} {files : FileSystem FileContent} {request : Json}
  {persist : Option Bool} {d : Document}

/-- A request that nothing fails with once it has been found in order: its sheets are within the
bound on rows, and they can be built and saved. -/
structure Makes (settings : Settings) (request : Json) (d : Document) : Prop where
  bounded : rowExcess? settings.maxRowsPerSheet request.sanitizeFormulas = none
  saved : ∃ w, (buildWorkbook request.sanitizeFormulas).outcome = .ok w ∧ w.save = .ok d

/-- A document that can be stored if it is to be kept. -/
def CanKeep (settings : Settings) (files : FileSystem FileContent) (request : Json)
    (persist : Option Bool) (d : Document) : Prop :=
  keeps settings persist = true → ∃ path,
    (Deposit.make files settings.templatesDir (Filename.derive request) (.workbook d)).result
      = .ok path

/-- A document is prepared if the verdict and the rest let it pass. -/
theorem prepare_eq_ok_iff :
    (prepare settings request).outcome = .ok d ↔
      check settings request = [] ∧ Makes settings request d := by
  have hends := prepare_cases settings request
  generalize (prepare settings request).outcome = outcome at hends ⊢
  -- every other end denies one of the things that are asked for
  cases hends with
  | invalid hinvalid => exact iff_of_false (fun h => by cases h) fun h => hinvalid h.1
  | excess _ hexcess =>
    exact iff_of_false (fun h => by cases h) fun h => by cases h.2.bounded.symm.trans hexcess
  | notBuilt _ _ hnot =>
    refine iff_of_false (fun h => by cases h) fun h => ?_
    obtain ⟨w, hbuilt, -⟩ := h.2.saved
    cases hbuilt.symm.trans hnot
  | notSaved _ _ hbuilt hnot =>
    refine iff_of_false (fun h => by cases h) fun h => ?_
    obtain ⟨w, hbuilt', hsave⟩ := h.2.saved
    obtain rfl := Except.ok.inj (hbuilt.symm.trans hbuilt')
    cases hsave.symm.trans hnot
  | saved hvalid hrows hbuilt hsave =>
    rw [Except.ok.injEq]
    constructor
    · rintro rfl
      exact ⟨hvalid, hrows, _, hbuilt, hsave⟩
    · rintro ⟨-, -, w, hbuilt', hsave'⟩
      obtain rfl := Except.ok.inj (hbuilt.symm.trans hbuilt')
      exact Except.ok.inj (hsave.symm.trans hsave')

/-- Preparing starts with the verdict. -/
theorem prepare_eq_invalid_iff {found : List Violation} :
    (prepare settings request).outcome = .error (.invalid found) ↔
      check settings request ≠ [] ∧ found = check settings request := by
  have hends := prepare_cases settings request
  generalize (prepare settings request).outcome = outcome at hends ⊢
  cases hends with
  | invalid hinvalid =>
    rw [Except.error.injEq, ServiceError.invalid.injEq]
    exact ⟨fun h => ⟨hinvalid, h.symm⟩, fun h => h.2.symm⟩
  | excess hvalid | notBuilt hvalid | notSaved hvalid | saved hvalid =>
    exact iff_of_false (fun h => by cases h) fun h => h.1 hvalid

/-- **Nothing precedes the verdict and nothing hides it.** -/
theorem generate_eq_invalid_iff {found : List Violation} :
    (generate settings files request persist).result = .error (.invalid found) ↔
      check settings request ≠ [] ∧ found = check settings request := by
  rw [← prepare_eq_invalid_iff]
  have hends := generate_cases settings files request persist
  generalize (generate settings files request persist).result = result at hends ⊢
  generalize (generate settings files request persist).files = new at hends
  -- whatever comes behind preparing, storing at most, fails for other reasons
  cases hends with
  | unprepared h => rw [h, Except.error.injEq, Except.error.injEq]
  | passed h | stored h | unstored h =>
    refine iff_of_false (fun hresult => by cases hresult) fun hprepared => ?_
    cases h.symm.trans hprepared

/-- What a call of the service has in common with the others. -/
structure Agrees (settings : Settings) (files : FileSystem FileContent) (request : Json)
    (persist : Option Bool) : Prop where
  invalid : ∀ found, (generate settings files request persist).result = .error (.invalid found) ↔
    check settings request ≠ [] ∧ found = check settings request
  delivered : ∀ d, check settings request = [] → Makes settings request d →
    CanKeep settings files request persist d →
      ∃ path, (generate settings files request persist).result
        = .ok ⟨Filename.derive request, d, path⟩

theorem agrees (settings : Settings) (files : FileSystem FileContent) (request : Json)
    (persist : Option Bool) : Agrees settings files request persist := by
  refine ⟨fun found => generate_eq_invalid_iff, fun d hvalid hmakes hkeep => ?_⟩
  have hprepared := prepare_eq_ok_iff.mpr ⟨hvalid, hmakes⟩
  have hends := generate_cases settings files request persist
  generalize (generate settings files request persist).result = result at hends ⊢
  generalize (generate settings files request persist).files = new at hends
  cases hends with
  | unprepared h => cases h.symm.trans hprepared
  | passed h | stored h =>
    obtain rfl := Except.ok.inj (h.symm.trans hprepared)
    exact ⟨_, rfl⟩
  | unstored h hkeeps he =>
    obtain rfl := Except.ok.inj (h.symm.trans hprepared)
    obtain ⟨path, hpath⟩ := hkeep hkeeps
    cases he.symm.trans hpath

end Service

/-! ### The endpoints -/

namespace Http

/-- A response that refuses a request and lists errors. -/
def Response.Lists (response : Response) (messages : List Text) : Prop :=
  response.status = 400 ∧ ∃ entries, response.payload = .json (.obj entries) ∧
    Json.Entries.get? entries "errors" = some (Response.texts messages)

theorem Response.texts_injective {messages messages' : List Text}
    (h : texts messages = texts messages') : messages = messages' :=
  List.map_injective_iff.mpr (fun _ _ hstr => Json.str.inj hstr) (Json.arr.inj h)

/-- Only violations are listed. -/
theorem Response.lists_ofResult_iff {result : Except ServiceError Generated}
    {messages : List Text} :
    (ofResult result).Lists messages ↔
      ∃ found, result = .error (.invalid found) ∧ messages = found.map Violation.message := by
  constructor
  -- of all refusals with this status only one has a list
  · rintro ⟨hstatus, entries, hpayload, hget⟩
    cases result with
    | ok g => cases hstatus
    | error e =>
      cases e with
      | invalid found =>
        obtain rfl := Json.obj.inj (Payload.json.inj hpayload)
        exact ⟨found, rfl, (texts_injective (Option.some.inj hget)).symm⟩
      | save e => cases hstatus
      | store f => cases f <;> cases hstatus
      | failure f =>
        cases f with
        | build b =>
          -- an error of building is reported under other keys
          have hresponse : ofResult (.error (.failure (.build b))) = notBuilt b := rfl
          rw [hresponse, notBuilt] at hpayload hstatus
          cases hmessage : b.message? with
          | some message =>
            rw [hmessage] at hpayload
            obtain rfl := Json.obj.inj (Payload.json.inj hpayload)
            cases hget
          | none =>
            rw [hmessage] at hstatus
            cases hstatus
        | rowOutOfRange => cases hstatus
        | untitled e => cases hstatus
  · rintro ⟨found, rfl, rfl⟩
    exact ⟨rfl, _, rfl, rfl⟩

/-- What is sent lists the violations of a request if it can be sent at all. -/
theorem Response.lists_sent_ofResult_iff {result : Except ServiceError Generated}
    {messages : List Text} :
    (ofResult result).sent.Lists messages ↔
      ∃ found, result = .error (.invalid found) ∧ messages = found.map Violation.message ∧
        Sendable found := by
  by_cases hsendable : (ofResult result).isEncodable = true
  · rw [sent_of_isEncodable hsendable, lists_ofResult_iff]
    constructor
    · rintro ⟨found, rfl, rfl⟩
      exact ⟨found, rfl, rfl, isEncodable_invalid_iff.mp hsendable⟩
    · rintro ⟨found, rfl, rfl, -⟩
      exact ⟨found, rfl, rfl⟩
  · rw [sent_of_not_isEncodable hsendable]
    constructor
    · rintro ⟨hstatus, -⟩
      cases hstatus
    · rintro ⟨found, rfl, -, hfound⟩
      exact absurd (isEncodable_invalid_iff.mpr hfound) hsendable

/-- A call of the endpoint for validation. -/
theorem Server.answer_validate {server : Server} {path : String} {body : List UInt8}
    {request : Json} (hpath : Route.ofPath? path = some .validate)
    (hread : readBody server.room.reading body = .ok request)
    (hfits : request.fits server.room.checking = true) :
    (server.answer ⟨.post, path, body⟩).2
      = (Response.ofCheck (Service.check server.settings request)).sent := by
  have hroute : server.route? ⟨.post, path, body⟩ = some .validate := by
    rw [route?, hpath]
    rfl
  have hdispatch : server.dispatch ⟨.post, path, body⟩ = (server, server.validate body) := by
    rw [dispatch, hroute]
    rfl
  have hpost : ¬ (Method.post = Method.head) := by decide
  rw [answer, hdispatch]
  dsimp only
  rw [if_neg hpost, validate, hread]
  dsimp only
  rw [if_pos hfits]

/-- What the endpoints have in common with the other ways, for a body that holds a request and where
there is room for it. A verdict that cannot be sent is an internal error of either endpoint; that on
a request whose texts can all be encoded can be sent. -/
structure Agrees (server : Server) (body : List UInt8) (request : Json) : Prop where
  validated : ∀ path, Route.ofPath? path = some .validate →
    request.fits server.room.checking = true →
    Sendable (Service.check server.settings request) →
    (server.answer ⟨.post, path, body⟩).2
      = .ofJson 200 [("valid", .bool (decide (Service.check server.settings request = []))),
          ("errors", Response.texts
            ((Service.check server.settings request).map Violation.message))]
  invalid : ∀ path tally messages, Route.ofPath? path = some .generate →
    server.tally.hit (RateLimit.readAll server.settings.generateRateLimit) = (tally, .allowed) →
    request.fits server.room.generating = true →
    Sendable (Service.check server.settings request) →
      ((server.answer ⟨.post, path, body⟩).2.Lists messages ↔
        Service.check server.settings request ≠ [] ∧
          messages = (Service.check server.settings request).map Violation.message)
  unsendable : ¬ Sendable (Service.check server.settings request) →
    (∀ path, Route.ofPath? path = some .validate → request.fits server.room.checking = true →
      (server.answer ⟨.post, path, body⟩).2 = .internalError) ∧
    (∀ path tally, Route.ofPath? path = some .generate →
      server.tally.hit (RateLimit.readAll server.settings.generateRateLimit) = (tally, .allowed) →
      request.fits server.room.generating = true →
        (server.answer ⟨.post, path, body⟩).2 = .internalError)
  sendable : request.isEncodable = true → Sendable (Service.check server.settings request)
  delivered : ∀ path tally d, Route.ofPath? path = some .generate →
    server.tally.hit (RateLimit.readAll server.settings.generateRateLimit) = (tally, .allowed) →
    request.fits server.room.generating = true →
    Service.check server.settings request = [] → Service.Makes server.settings request d →
    Service.CanKeep server.settings server.files request none d →
      (server.answer ⟨.post, path, body⟩).2
        = ⟨200, Generated.mediaType, .workbook (Filename.derive request) d⟩

theorem agrees {server : Server} {body : List UInt8} {request : Json}
    (hread : readBody server.room.reading body = .ok request) : Agrees server body request := by
  refine ⟨fun path hpath hfits hsendable => ?_,
    fun path tally messages hpath hcall hfits hsendable => ?_,
    fun hunsendable => ⟨fun path hpath hfits => ?_, fun path tally hpath hcall hfits => ?_⟩,
    fun hencodable => sendable_check hencodable server.settings,
    fun path tally d hpath hcall hfits hvalid hmakes hkeep => ?_⟩
  · rw [Server.answer_validate hpath hread hfits,
      Response.sent_of_isEncodable (isEncodable_ofCheck_iff.mpr hsendable), Response.ofCheck]
    cases Service.check server.settings request <;> rfl
  · rw [Server.answer_generate hpath hcall hread hfits, Response.lists_sent_ofResult_iff]
    -- the endpoint passes on what the service says
    simp only [Service.generate_eq_invalid_iff, and_assoc]
    constructor
    · rintro ⟨_, hinvalid, rfl, rfl, -⟩
      exact ⟨hinvalid, rfl⟩
    · rintro ⟨hinvalid, rfl⟩
      exact ⟨_, hinvalid, rfl, rfl, hsendable⟩
  · rw [Server.answer_validate hpath hread hfits]
    exact Response.sent_of_not_isEncodable (mt isEncodable_ofCheck_iff.mp hunsendable)
  · -- there is a verdict, since an empty one can be sent
    have hinvalid : Service.check server.settings request ≠ [] := by
      intro hvalid
      rw [hvalid] at hunsendable
      exact hunsendable fun v hv => by cases hv
    have hresult : (Service.generate server.settings server.files request none).result
        = .error (.invalid (Service.check server.settings request)) :=
      Service.generate_eq_invalid_iff.mpr ⟨hinvalid, rfl⟩
    rw [Server.answer_generate hpath hcall hread hfits, hresult]
    exact Response.sent_of_not_isEncodable (mt isEncodable_invalid_iff.mp hunsendable)
  · obtain ⟨saved, hresult⟩ := (Service.agrees server.settings server.files request
      none).delivered d hvalid hmakes hkeep
    rw [Server.answer_generate hpath hcall hread hfits, hresult, Response.ofResult]
    exact Response.sent_of_isEncodable rfl

end Http

/-! ### The command line -/

namespace Cli

/-- The settings of a run differ from those of the program in the scan at most. -/
theorem makes_withScan {settings : Settings} {request : Json} {d : Document} (scanData : Bool)
    (h : Service.Makes settings request d) :
    Service.Makes (withScan settings scanData) request d := by
  -- the bound on rows is the same
  obtain ⟨hbounded, hsaved⟩ := h
  refine ⟨?_, hsaved⟩
  cases scanData with
  | false => exact hbounded
  | true => exact hbounded

/-- What the commands have in common with the other ways, for a file that holds a request and where
there is room for it. -/
structure Agrees (room : Room) (environment : List (String × String)) (settings : Settings)
    (files : FileSystem FileContent) (file : String) (request : Json) : Prop where
  validated : ∀ args scanData, Invocation.read args = .ok (.validate file scanData) →
    request.fits room.checking = true →
    ∃ report, (run room environment files args).ending = .ok report ∧
      (report.code = 0 ↔ Service.check (withScan settings scanData) request = []) ∧
      (Service.check (withScan settings scanData) request ≠ [] →
        report = .fail
          (("Request has " ++ toString (Service.check (withScan settings scanData) request).length
              ++ " error(s):" : String)
            :: Report.violationLines (Service.check (withScan settings scanData) request)))
  invalid : ∀ args output scanData, Invocation.read args = .ok (.build file output scanData) →
    request.fits room.generating = true →
    Service.check (withScan settings scanData) request ≠ [] →
      (run room environment files args).ending
        = .ok (.fail ("Invalid request:"
            :: Report.violationLines (Service.check (withScan settings scanData) request)))
  delivered : ∀ args output scanData d,
    Invocation.read args = .ok (.build file output scanData) →
    request.fits room.generating = true →
    Service.check (withScan settings scanData) request = [] → Service.Makes settings request d →
    (∃ path, (Deposit.make files (outputDirectory output) (Filename.derive request)
      (.workbook d)).result = .ok path) →
      ∃ report, (run room environment files args).ending = .ok report ∧ report.code = 0 ∧
        Store.Stored files (run room environment files args).files (outputDirectory output)
          (Filename.derive request) (.workbook d)

theorem agrees {room : Room} {environment : List (String × String)} {settings : Settings}
    {files : FileSystem FileContent} {file : String} {request : Json}
    (hsettings : Settings.ofFiles environment files = .ok settings)
    (hfile : Holds room.reading files file request) :
    Agrees room environment settings files file request := by
  refine ⟨fun args scanData hargs hfits => ?_, fun args output scanData hargs hfits hinvalid => ?_,
    fun args output scanData d hargs hfits hvalid hmakes hstore => ?_⟩
  · rw [run_validate hargs hsettings hfile hfits]
    refine ⟨_, rfl, ?_⟩
    generalize Service.check (withScan settings scanData) request = found
    cases found with
    | nil => exact ⟨iff_of_true rfl rfl, fun h => absurd rfl h⟩
    | cons v found =>
      exact ⟨iff_of_false (by simp [Report.ofCheck, Report.fail]) (by simp), fun _ => rfl⟩
  · rw [run_build hargs hsettings hfile hfits]
    exact (Run.build_of_error (Service.prepare_eq_invalid_iff.mpr ⟨hinvalid, rfl⟩) files _).2
  · have hprepared := Service.prepare_eq_ok_iff.mpr ⟨hvalid, makes_withScan scanData hmakes⟩
    obtain ⟨events, hbuild⟩ := Run.build_of_prepared hprepared files (outputDirectory output)
    obtain ⟨path, hpath⟩ := hstore
    obtain ⟨hending, hstored⟩ := Run.write_of_stored (tidy_outputDirectory output) hpath
      none events
    rw [Filename.withExtension_derive] at hstored
    rw [run_build hargs hsettings hfile hfits, hbuild]
    exact ⟨_, hending, rfl, hstored⟩

end Cli

/-! ### The result -/

/-- **All entry points agree.** -/
theorem entryPoints_agree (settings : Settings) (request : Json) :
    (∀ files persist, Service.Agrees settings files request persist) ∧
    (∀ (server : Http.Server) body, server.settings = settings →
      Http.readBody server.room.reading body = .ok request → Http.Agrees server body request) ∧
    (∀ (room : Room) environment files file, Settings.ofFiles environment files = .ok settings →
      Cli.Holds room.reading files file request →
        Cli.Agrees room environment settings files file request) :=
  ⟨fun files persist => Service.agrees settings files request persist,
    fun _ _ _ hread => Http.agrees hread,
    fun _ _ _ _ hsettings hfile => Cli.agrees hsettings hfile⟩

/-- A request that is delivered in all three ways, and one that is refused. -/
theorem entryPoints_agree_small :
    (∃ d, (∃ saved, (Service.generate .defaults .empty (oneValueRequest 100) none).result
        = .ok ⟨"q.xlsx", d, saved⟩) ∧
      ((Http.Server.start .unbounded .defaults .empty).answer
        ⟨.post, "/api/spreadsheet/generate", zerosBody 2⟩).2
          = ⟨200, Generated.mediaType, .workbook "q.xlsx" d⟩ ∧
      Store.Stored requestFiles
        (Cli.run .unbounded [] requestFiles ["build", "r.json", "-o", "out"]).files
        (.ofString "out") "q.xlsx" (.workbook d)) ∧
    (Service.generate .defaults .empty smallRequest none).result
      = .error (.invalid [.notAllowed [.key "note"]]) := by
  obtain ⟨hservice, hhttp, hcli⟩ := entryPoints_agree .defaults (oneValueRequest 100)
  have hname : Filename.derive (oneValueRequest 100) = "q.xlsx" := by decide +kernel
  have hread : Http.readBody none (zerosBody 2) = .ok (oneValueRequest 100) := by decide +kernel
  have hfile : Cli.Holds none requestFiles "r.json" (oneValueRequest 100) :=
    ⟨by decide, .octets (zerosBody 2), by decide +kernel, by decide +kernel⟩
  have hsettings : Settings.ofFiles [] requestFiles = .ok .defaults := by decide +kernel
  have hargs : Cli.Invocation.read ["build", "r.json", "-o", "out"]
      = .ok (.build "r.json" (some "out") false) := by decide +kernel
  -- the first call is within every limit
  have hcall : (Http.Server.start .unbounded .defaults .empty).tally.hit
      (Http.RateLimit.readAll Settings.defaults.generateRateLimit)
        = ([(⟨60, 1, .minute⟩, 1)], .allowed) := by
    decide +kernel
  obtain ⟨d, hd, -⟩ := exists_ok_of_map
    (show (Service.prepare .defaults (oneValueRequest 100)).outcome.toOption.map
      (fun d => d.sheets.length) = some 1 by decide +kernel)
  obtain ⟨hvalid, hmakes⟩ := Service.prepare_eq_ok_iff.mp hd
  have hlibrary := (hservice .empty none).delivered d hvalid hmakes fun h => by cases h
  have hanswer := (hhttp (.start .unbounded .defaults .empty) (zerosBody 2) rfl hread).delivered
    "/api/spreadsheet/generate" _ d (by decide) hcall rfl hvalid hmakes fun h => by cases h
  have hstore : ∃ path, (Deposit.make requestFiles (Cli.outputDirectory (some "out")) "q.xlsx"
      (.workbook d)).result = .ok path := ⟨_, rfl⟩
  obtain ⟨-, -, -, hwritten⟩ := (hcli .unbounded [] requestFiles "r.json" hsettings hfile).delivered
    ["build", "r.json", "-o", "out"] (some "out") false d hargs rfl hvalid hmakes (by rwa [hname])
  rw [hname] at hlibrary hanswer hwritten
  refine ⟨⟨d, hlibrary, hanswer, hwritten⟩, ?_⟩
  exact ((entryPoints_agree .defaults smallRequest).1 .empty none).invalid
    [.notAllowed [.key "note"]] |>.mpr (by decide +kernel)

/-! ### A verdict that cannot be sent -/

/-- A request whose only key is a half of a pair. -/
def halfRequest : Json := .obj [(⟨[.ofNat 0xD800]⟩, .int 1)]

/-- Its text, in which the key is an escape. -/
def halfBody : List UInt8 :=
  "\x7b\"\\ud800\":1\x7d".toList.map fun c => UInt8.ofNat c.toNat

/-- A request has violations, and neither endpoint lists them. -/
theorem halfRequest_unlisted :
    Http.readBody none halfBody = .ok halfRequest ∧
      (Service.check .defaults halfRequest ≠ [] ∧
        (Service.generate .defaults .empty halfRequest none).result
          = .error (.invalid (Service.check .defaults halfRequest))) ∧
      ((Http.Server.start .unbounded .defaults .empty).answer
        ⟨.post, "/api/spreadsheet/validate", halfBody⟩).2.status = 500 ∧
      ((Http.Server.start .unbounded .defaults .empty).answer
        ⟨.post, "/api/spreadsheet/generate", halfBody⟩).2.status = 500 := by
  have hread : Http.readBody none halfBody = .ok halfRequest := by decide +kernel
  have hinvalid : Service.check .defaults halfRequest ≠ [] := by decide +kernel
  have hunsendable : ¬ Http.Sendable (Service.check .defaults halfRequest) := by decide +kernel
  have hcall : (Http.Server.start .unbounded .defaults .empty).tally.hit
      (Http.RateLimit.readAll Settings.defaults.generateRateLimit)
        = ([(⟨60, 1, .minute⟩, 1)], .allowed) := by
    decide +kernel
  have hagrees : Http.Agrees (.start .unbounded .defaults .empty) halfBody halfRequest :=
    Http.agrees hread
  obtain ⟨hvalidate, hgenerate⟩ := hagrees.unsendable hunsendable
  refine ⟨hread, ⟨hinvalid, Service.generate_eq_invalid_iff.mpr ⟨hinvalid, rfl⟩⟩, ?_, ?_⟩
  · rw [hvalidate _ (by decide) rfl]
    rfl
  · rw [hgenerate _ _ (by decide) hcall rfl]
    rfl

end Gridwork
