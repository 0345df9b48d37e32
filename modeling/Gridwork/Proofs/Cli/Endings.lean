import Gridwork.Proofs.Cli.Run
import Gridwork.Proofs.Service.Persistence

/-!
# Which runs are reported

A run on a request file is meant to end with a report: of success, with code 0 and no complaint
(`Report.Succeeds`), or of failure, with code 1, a complaint, and nothing else said
(`Report.Fails`). Not all runs do. `Cli.endings` tells which of them break off instead:

* the file is no text, or has a number in it that is too long to be read, or arrays and objects
  inside too many others (`Jams`), or there is no room to work on what was read from it,
* a build comes to a failure that is neither a violation nor an error of building, as when a value
  cannot be saved (`Service.Answered`),
* the output directory has a character in its name that no path may hold.

All others are reported, and which are reported as a success is said as well. `notText_unreported`
is a run that breaks off.
-/

namespace Gridwork.Cli

/-! ### Reports -/

/-- A report of success complains about nothing. -/
structure Report.Succeeds (report : Report) : Prop where
  code : report.code = 0
  errors : report.errors = ""

/-- A report of failure says nothing but what is wrong. -/
structure Report.Fails (report : Report) : Prop where
  code : report.code = 1
  output : report.output = ""
  errors : report.errors ≠ ""

namespace Report

theorem Succeeds.not_fails {report : Report} (h : report.Succeeds) : ¬ report.Fails := by
  intro hfails
  have hcode := hfails.code
  rw [h.code] at hcode
  cases hcode

theorem succeeds_success (line : String) : (success line).Succeeds := ⟨rfl, rfl⟩

/-- A line is not empty, since it has an end. -/
theorem fails_fail (line : Text) (lines : List Text) : (fail (line :: lines)).Fails := by
  refine ⟨rfl, rfl, fun hempty => ?_⟩
  have hpoints := Text.toList_inj.mpr hempty
  simp [fail, Text.join] at hpoints

theorem succeeds_ofCheck {found : List Violation} (h : found = []) :
    (ofCheck found).Succeeds := by
  rw [ofCheck, h]
  exact succeeds_success _

theorem fails_ofCheck {found : List Violation} (h : found ≠ []) : (ofCheck found).Fails := by
  rw [ofCheck, if_neg (mt List.isEmpty_iff.mp h)]
  exact fails_fail _ _

end Report

/-! ### Endings -/

/-- How a run ends: it breaks off in some cases, reports success in some others, and reports failure
in all that are left. -/
structure Ends (ending : Except Crash Report) (breaks succeeds : Prop) : Prop where
  breaks_iff : (∃ crash, ending = .error crash) ↔ breaks
  succeeds_iff : (∃ report, ending = .ok report ∧ report.Succeeds) ↔ succeeds
  fails_iff : (∃ report, ending = .ok report ∧ report.Fails) ↔ ¬ breaks ∧ ¬ succeeds

section Ends

variable {breaks succeeds : Prop}

theorem ends_broken {crash : Crash} (hb : breaks) (hs : ¬ succeeds) :
    Ends (.error crash) breaks succeeds := by
  refine ⟨iff_of_true ⟨crash, rfl⟩ hb, iff_of_false ?_ hs, iff_of_false ?_ fun h => h.1 hb⟩
  · rintro ⟨report, h, -⟩
    cases h
  · rintro ⟨report, h, -⟩
    cases h

theorem ends_succeeded {report : Report} (h : report.Succeeds) (hb : ¬ breaks) (hs : succeeds) :
    Ends (.ok report) breaks succeeds := by
  refine ⟨iff_of_false ?_ hb, iff_of_true ⟨report, rfl, h⟩ hs, iff_of_false ?_ fun h => h.2 hs⟩
  · rintro ⟨crash, hcrash⟩
    cases hcrash
  · rintro ⟨report', hreport, hfails⟩
    obtain rfl := Except.ok.inj hreport
    exact h.not_fails hfails

theorem ends_failed {report : Report} (h : report.Fails) (hb : ¬ breaks) (hs : ¬ succeeds) :
    Ends (.ok report) breaks succeeds := by
  refine ⟨iff_of_false ?_ hb, iff_of_false ?_ hs, iff_of_true ⟨report, rfl, h⟩ ⟨hb, hs⟩⟩
  · rintro ⟨crash, hcrash⟩
    cases hcrash
  · rintro ⟨report', hreport, hsucceeds⟩
    obtain rfl := Except.ok.inj hreport
    exact hsucceeds.not_fails h

theorem Ends.congr {ending : Except Crash Report} {breaks' succeeds' : Prop}
    (h : Ends ending breaks succeeds) (hb : breaks ↔ breaks') (hs : succeeds ↔ succeeds') :
    Ends ending breaks' succeeds' := by
  rwa [← hb, ← hs]

end Ends

/-! ### Request files -/

/-- A content that is not read to an end: it is no text, or the reader comes to a number with too
many digits, or to an array or object inside too many others. -/
def Jams (bound : Option Nat) (content : FileContent) : Prop :=
  content.text? = none ∨
    ∃ text, content.text? = some text ∧
      (Json.parse bound (String.ofList text) = .error .tooManyDigits ∨
        Json.parse bound (String.ofList text) = .error .tooDeep)

variable {bound : Option Nat} {files : FileSystem FileContent} {file : String}
  {content : FileContent}

/-- What comes of reading a request file. -/
inductive ReadEnds (bound : Option Nat) (content : FileContent) :
    Except Crash (Except Report Json) → Prop
  | jams {crash : Crash} (h : Jams bound content) : ReadEnds bound content (.error crash)
  | malformed {report : Report} (h : ¬ Jams bound content) (hfails : report.Fails) :
      ReadEnds bound content (.ok (.error report))
  | read {request : Json} (h : ¬ Jams bound content) (hw : request.WellFormed)
      (hwritable : request.isWritable = true) : ReadEnds bound content (.ok (.ok request))

theorem readRequest_cases (bound : Option Nat) (file : String) (content : FileContent) :
    ReadEnds bound content (readRequest bound file content) := by
  unfold readRequest
  split
  · next hnone => exact .jams (Or.inl hnone)
  · next text htext =>
    have hjams : Jams bound content ↔
        Json.parse bound (String.ofList text) = .error .tooManyDigits ∨
          Json.parse bound (String.ofList text) = .error .tooDeep := by
      constructor
      · rintro (hnone | ⟨text', htext', hparse⟩)
        · rw [hnone] at htext
          cases htext
        · obtain rfl := Option.some.inj (htext.symm.trans htext')
          exact hparse
      · exact fun hparse => Or.inr ⟨text, htext, hparse⟩
    split
    · next request hparse =>
      refine .read (fun h => ?_) (Json.wellFormed_of_parse hparse)
        (Json.isWritable_of_parse hparse)
      rw [hjams, hparse] at h
      rcases h with h | h <;> cases h
    · next fault place hparse =>
      refine .malformed (fun h => ?_) (Report.fails_fail _ _)
      rw [hjams, hparse] at h
      rcases h with h | h <;> cases h
    · next hparse => exact .jams (hjams.mpr (Or.inl hparse))
    · next hparse => exact .jams (hjams.mpr (Or.inr hparse))

/-- A run on a request file ends as it goes on with the request, if there is one to be read. -/
theorem ends_withRequest {k : Json → Run} {breaks succeeds : Json → Prop}
    (hnamed : ¬ file.toList.contains '\x00' = true) (hfile : files.readFile file = .ok content)
    (hk : ∀ request, request.WellFormed →
      Ends (k request).ending (breaks request) (succeeds request)) :
    Ends (Run.withRequest bound files file k).ending
      (Jams bound content ∨ ∃ request, Holds bound files file request ∧ breaks request)
      (∃ request, Holds bound files file request ∧ succeeds request) := by
  -- the request is told by the content
  have hholds : ∀ request, Holds bound files file request ↔
      readRequest bound file content = .ok (.ok request) := by
    intro request
    constructor
    · rintro ⟨-, content', hcontent', hread⟩
      obtain rfl := Except.ok.inj (hfile.symm.trans hcontent')
      exact hread
    · exact fun hread => ⟨hnamed, content, hfile, hread⟩
  have hends := readRequest_cases bound file content
  unfold Run.withRequest
  rw [if_neg hnamed, hfile]
  simp only [hholds]
  generalize readRequest bound file content = outcome at hends
  cases hends with
  | jams h =>
    refine ends_broken (Or.inl h) ?_
    rintro ⟨request, hread, -⟩
    cases hread
  | malformed h hfails =>
    refine ends_failed hfails ?_ ?_
    · rintro (hjams | ⟨request, hread, -⟩)
      · exact h hjams
      · cases hread
    · rintro ⟨request, hread, -⟩
      cases hread
  | @read request h hw _ =>
    refine (hk request hw).congr ⟨fun hb => Or.inr ⟨request, rfl, hb⟩, ?_⟩
      ⟨fun hs => ⟨request, rfl, hs⟩, ?_⟩
    · rintro (hjams | ⟨request', hread, hb⟩)
      · exact absurd hjams h
      · obtain rfl := Except.ok.inj (Except.ok.inj hread)
        exact hb
    · rintro ⟨request', hread, hs⟩
      obtain rfl := Except.ok.inj (Except.ok.inj hread)
      exact hs

/-- Where there is no room for the request, the run breaks off instead of going on with it. -/
theorem ends_within {k : Json → Run} {request : Json} {breaks succeeds : Prop}
    (hk : Ends (k request).ending breaks succeeds) :
    Ends (Run.within bound files k request).ending
      (¬ request.fits bound = true ∨ breaks) (request.fits bound = true ∧ succeeds) := by
  by_cases hfits : request.fits bound = true
  · rw [within_of_fits hfits]
    refine hk.congr ⟨Or.inr, fun h => ?_⟩ ⟨fun hs => ⟨hfits, hs⟩, And.right⟩
    exact h.resolve_left (not_not_intro hfits)
  · rw [within_of_not_fits hfits]
    exact ends_broken (Or.inl hfits) fun h => hfits h.1

/-! ### Validations and builds -/

variable {settings : Settings} {directory : Path} {request : Json}

theorem ends_validate (settings : Settings) (files : FileSystem FileContent) (request : Json) :
    Ends (Run.validate settings files request).ending False
      (Service.check settings request = []) := by
  by_cases hvalid : Service.check settings request = []
  · exact ends_succeeded (Report.succeeds_ofCheck hvalid) id hvalid
  · exact ends_failed (Report.fails_ofCheck hvalid) id hvalid

/-- A build that comes to something it has no words for. -/
def Wordless (settings : Settings) (files : FileSystem FileContent) (directory : Path)
    (request : Json) : Prop :=
  ¬ Service.Answered (Service.generate settings files request (some false)).result ∨
    (∃ g, (Service.generate settings files request (some false)).result = .ok g) ∧
      Store.hasNul directory = true

/-- A build that comes to a workbook which is stored. -/
def Delivers (settings : Settings) (files : FileSystem FileContent) (directory : Path)
    (request : Json) : Prop :=
  ∃ g path, (Service.generate settings files request (some false)).result = .ok g ∧
    (Deposit.make files directory g.filename (.workbook g.document)).result = .ok path

/-- The service is told to keep nothing, so what comes of a request is what was prepared. -/
theorem generate_eq_prepared (settings : Settings) (files : FileSystem FileContent)
    (request : Json) :
    (Service.generate settings files request (some false)).result
      = (Service.prepare settings request).outcome.map fun d =>
          ⟨Filename.derive request, d, none⟩ :=
  Service.generate_of_not_kept rfl files

/-- What is no storage error is reported if it is an answer. -/
theorem ends_ofServiceError {e : ServiceError} {succeeds : Prop} (he : ∀ f, e ≠ .store f)
    (hs : ¬ succeeds) :
    Ends (Report.ofServiceError e) (¬ Service.Answered (.error e)) succeeds := by
  have hanswer : Service.Answered (.error e) → ¬ ¬ Service.Answered (.error e) := not_not_intro
  cases e with
  | invalid found => exact ends_failed (Report.fails_fail _ _) (hanswer trivial) hs
  | failure f =>
    cases f with
    | build b =>
      -- without a wording there is nothing to report
      have hanswered : Service.Answered (.error (.failure (.build b)))
          ↔ b.message?.isSome = true := Iff.rfl
      unfold Report.ofServiceError
      dsimp only
      rw [hanswered]
      cases b.message? with
      | some message => exact ends_failed (Report.fails_fail _ _) (not_not_intro rfl) hs
      | none => exact ends_broken Bool.false_ne_true hs
    | rowOutOfRange => exact ends_broken id hs
    | untitled t => exact ends_broken id hs
  | save f => exact ends_broken id hs
  | store f => exact absurd rfl (he f)

/-- Preparing a request stores nothing. -/
theorem ne_store_of_prepare {e : ServiceError}
    (h : (Service.prepare settings request).outcome = .error e) (f : StoreFailure) :
    e ≠ .store f := by
  rintro rfl
  have hends := Service.prepare_cases settings request
  rw [h] at hends
  cases hends

/-- Writing a workbook that is there. -/
theorem ends_write (files : FileSystem FileContent) (directory : Path) (request : Json)
    (d : Document) (events : List Event) :
    Ends (Run.write files directory ⟨Filename.derive request, d, none⟩ events).ending
      (Store.hasNul directory = true)
      (∃ path, (Deposit.make files directory (Filename.derive request) (.workbook d)).result
        = .ok path) := by
  have hnul := Deposit.make_eq_nulInPath_iff files directory request (.workbook d)
  rw [← hnul]
  unfold Run.write
  dsimp only
  generalize (Deposit.make files directory (Filename.derive request) (.workbook d)).result = stored
  cases stored with
  | ok path =>
    refine ends_succeeded (Report.succeeds_success _) (fun h => ?_) ⟨path, rfl⟩
    cases h
  | error e =>
    have hnot : ¬ ∃ path, (Except.error e : Except StoreFailure Path) = .ok path := by
      rintro ⟨path, hpath⟩
      cases hpath
    cases e with
    | nulInPath => exact ends_broken rfl hnot
    | storage e =>
      refine ends_failed (Report.fails_fail _ _) (fun h => ?_) hnot
      cases h

/-- **How a build ends.** -/
theorem ends_build (settings : Settings) (files : FileSystem FileContent) (directory : Path)
    (request : Json) :
    Ends (Run.build settings files directory request).ending
      (Wordless settings files directory request)
      (Delivers settings files directory request) := by
  have hresult := generate_eq_prepared settings files request
  unfold Wordless Delivers
  rw [hresult]
  cases hprepared : (Service.prepare settings request).outcome with
  | error e =>
    obtain ⟨-, hending⟩ := Run.build_of_error hprepared files directory
    rw [hending]
    refine (ends_ofServiceError (ne_store_of_prepare hprepared) id).congr ⟨Or.inl, ?_⟩
      ⟨False.elim, ?_⟩
    · rintro (hno | ⟨⟨g, hg⟩, -⟩)
      · exact hno
      · cases hg
    · rintro ⟨g, path, hg, -⟩
      cases hg
  | ok d =>
    -- the workbook is there, so all depends on storing it
    obtain ⟨events, hbuild⟩ := Run.build_of_prepared hprepared files directory
    rw [hbuild]
    dsimp only [Except.map]
    refine (ends_write files directory request d events).congr ⟨fun hnul => Or.inr ⟨?_, hnul⟩, ?_⟩
      ⟨?_, ?_⟩
    · exact ⟨_, rfl⟩
    · rintro (hno | ⟨-, hnul⟩)
      · exact absurd trivial hno
      · exact hnul
    · rintro ⟨path, hpath⟩
      refine ⟨⟨Filename.derive request, d, none⟩, path, rfl, ?_⟩
      dsimp only
      exact hpath
    · rintro ⟨g, path, hg, hpath⟩
      obtain rfl := Except.ok.inj hg
      dsimp only at hpath
      exact ⟨path, hpath⟩

/-- A build has no words for a request that no file can hold. -/
theorem wordless_of_unsavable (hw : request.WellFormed) (h : Service.Unsavable settings request)
    (files : FileSystem FileContent) (directory : Path) :
    Wordless settings files directory request := by
  refine Or.inl ?_
  rw [generate_eq_prepared]
  rcases h.prepare hw with hprepared | ⟨e, hprepared⟩
  · rw [hprepared]
    exact id
  · rw [hprepared]
    exact id

/-- For every other one it has, if there are enough rows and the directory can be named. -/
theorem not_wordless (hw : request.WellFormed) (hwritable : request.isWritable = true)
    (h : ¬ Service.Unsavable settings request) (hrows : request.sanitizeFormulas.RowsFit)
    (hdirectory : Store.hasNul directory = false) (files : FileSystem FileContent) :
    ¬ Wordless settings files directory request := by
  rintro (hno | ⟨-, hnul⟩)
  · rw [generate_eq_prepared] at hno
    exact hno (Service.answered_prepare hw hwritable hrows h (Filename.derive request))
  · rw [hdirectory] at hnul
    cases hnul

/-- A request that a file holds was read. -/
theorem readProperties_of_holds (h : Holds bound files file request) :
    request.WellFormed ∧ request.isWritable = true := by
  obtain ⟨content, -, hread⟩ := h.read
  have hends := readRequest_cases bound file content
  rw [hread] at hends
  cases hends with
  | read _ hw hwritable => exact ⟨hw, hwritable⟩

/-! ### The result -/

/-- How the runs on a request file end. -/
structure Endings (room : Room) (environment : List (String × String))
    (files : FileSystem FileContent) (file : String) (content : FileContent)
    (settings : Settings) : Prop where
  /-- A validation breaks off only at the content of the file, or for want of room, and succeeds
  exactly if there is room and there are no violations. -/
  validate : ∀ args scanData, Invocation.read args = .ok (.validate file scanData) →
    Ends (run room environment files args).ending
      (Jams room.reading content ∨ ∃ request, Holds room.reading files file request ∧
        ¬ request.fits room.checking = true)
      (∃ request, Holds room.reading files file request ∧ request.fits room.checking = true ∧
        Service.check (withScan settings scanData) request = [])
  /-- A build may break off behind that too, and succeeds exactly if there is room and a workbook is
  stored. -/
  build : ∀ args output scanData, Invocation.read args = .ok (.build file output scanData) →
    Ends (run room environment files args).ending
      (Jams room.reading content ∨ ∃ request, Holds room.reading files file request ∧
        (¬ request.fits room.generating = true ∨
          Wordless (withScan settings scanData) files (outputDirectory output) request))
      (∃ request, Holds room.reading files file request ∧
        request.fits room.generating = true ∧
          Delivers (withScan settings scanData) files (outputDirectory output) request)
  /-- Behind the content of the file a build breaks off at what cannot be saved. -/
  unsavable : ∀ request scanData directory, Holds room.reading files file request →
    Service.Unsavable (withScan settings scanData) request →
      Wordless (withScan settings scanData) files directory request
  /-- It does so at nothing else, if there are enough rows and the directory can be named. -/
  savable : ∀ request scanData directory, Holds room.reading files file request →
    ¬ Service.Unsavable (withScan settings scanData) request →
      request.sanitizeFormulas.RowsFit → Store.hasNul directory = false →
        ¬ Wordless (withScan settings scanData) files directory request

/-- **Which runs are reported**, and as what, for every content of the request file and all
settings. -/
theorem endings {room : Room} {environment : List (String × String)}
    (hnamed : ¬ file.toList.contains '\x00' = true) (hfile : files.readFile file = .ok content)
    (hsettings : Settings.ofFiles environment files = .ok settings) :
    Endings room environment files file content settings := by
  refine ⟨fun args scanData hargs => ?_, fun args output scanData hargs => ?_,
    fun request scanData directory hholds hunsavable =>
      wordless_of_unsavable (readProperties_of_holds hholds).1 hunsavable files directory,
    fun request scanData directory hholds hsavable hrows hdirectory => ?_⟩
  · rw [run_eq_perform hargs hsettings]
    refine (ends_withRequest hnamed hfile fun request _ =>
      ends_within (ends_validate (withScan settings scanData) files request)).congr ?_ Iff.rfl
    simp only [or_false]
  · rw [run_eq_perform hargs hsettings]
    exact ends_withRequest hnamed hfile fun request _ =>
      ends_within (ends_build (withScan settings scanData) files (outputDirectory output) request)
  · obtain ⟨hw, hwritable⟩ := readProperties_of_holds hholds
    exact not_wordless hw hwritable hsavable hrows hdirectory files

/-- The runs on a small request. -/
theorem endings_small :
    ¬ "r.json".toList.contains '\x00' = true ∧
      requestFiles.readFile "r.json" = .ok (.octets (zerosBody 2)) ∧
      Settings.ofFiles [] requestFiles = .ok .defaults ∧
      Endings .unbounded [] requestFiles "r.json" (.octets (zerosBody 2)) .defaults := by
  have hnamed : ¬ "r.json".toList.contains '\x00' = true := by decide
  have hfile : requestFiles.readFile "r.json" = .ok (.octets (zerosBody 2)) := by
    decide +kernel
  have hsettings : Settings.ofFiles [] requestFiles = .ok .defaults := by decide +kernel
  exact ⟨hnamed, hfile, hsettings, endings hnamed hfile hsettings⟩

/-- A working directory with a request file that is no text. -/
def notTextFiles : FileSystem FileContent :=
  ⟨.directory [("work", .directory [("r.json", .file (.octets [0xff]))])], ["work"]⟩

/-- A run on a file that is no text is not reported at all, neither by a validation nor by a
build. -/
theorem notText_unreported :
    (run .unbounded [] notTextFiles ["validate", "r.json"]).ending = .error .fileNotText ∧
      (run .unbounded [] notTextFiles ["build", "r.json", "-o", "out"]).ending
        = .error .fileNotText ∧
      ¬ ∃ report, (run .unbounded [] notTextFiles ["validate", "r.json"]).ending = .ok report := by
  have hvalidate : (run .unbounded [] notTextFiles ["validate", "r.json"]).ending
      = .error .fileNotText := by
    decide +kernel
  refine ⟨hvalidate, by decide +kernel, ?_⟩
  rintro ⟨report, hreport⟩
  rw [hvalidate] at hreport
  cases hreport

end Gridwork.Cli
