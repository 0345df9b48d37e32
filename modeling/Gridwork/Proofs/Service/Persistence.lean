import Gridwork.Http.Server
import Gridwork.Proofs.Cli.Run
import Gridwork.Proofs.Service.Answers
import Gridwork.Proofs.Storage.Store

/-!
# What is left on disk

Files are written last, and only by what is meant to write them:

* a generation leaves the files as they were unless its workbook is kept, and then it adds the
  workbook and the missing directories on the way to it (`Service.GenerationLeaves`);
* of the endpoints, only that for generating has an effect on files;
* of the commands, only `build` has one: it writes its workbook if it succeeds, and touches no other
  file in any case (`Cli.BuildLeaves`).

`files_left` puts this together.
-/

namespace Gridwork

/-! ### Generations -/

namespace Service

variable {settings : Settings} {files : FileSystem FileContent} {request : Json}
  {persist : Option Bool}

/-- What a generation leaves behind. -/
structure GenerationLeaves (settings : Settings) (files : FileSystem FileContent) (request : Json)
    (persist : Option Bool) : Prop where
  /-- Whatever goes wrong before storing, nothing has changed. -/
  failed : ∀ e, (∀ f, e ≠ .store f) →
    (generate settings files request persist).result = .error e →
      (generate settings files request persist).files = files
  /-- A result that is not kept changes nothing. -/
  passed : ∀ g, (generate settings files request persist).result = .ok g →
    persist.getD settings.persistGenerated = false →
      (generate settings files request persist).files = files
  /-- A result that is kept is stored as it is. -/
  stored : ∀ g, (generate settings files request persist).result = .ok g →
    persist.getD settings.persistGenerated = true →
      Store.Stored files (generate settings files request persist).files settings.templatesDir
        g.filename (.workbook g.document)

/-- A workbook is kept by storing it. -/
theorem deliverKept_cases (settings : Settings) (files : FileSystem FileContent) (filename : String)
    (d : Document) (events : List Event) :
    (deliverKept settings files filename d events).files
        = (Deposit.make files settings.templatesDir filename (.workbook d)).files ∧
      ((∃ path,
          (Deposit.make files settings.templatesDir filename (.workbook d)).result = .ok path ∧
            (deliverKept settings files filename d events).result
              = .ok ⟨filename, d, some path⟩) ∨
        ∃ e, (Deposit.make files settings.templatesDir filename (.workbook d)).result = .error e ∧
          (deliverKept settings files filename d events).result = .error (.store e)) := by
  unfold deliverKept
  dsimp only
  cases (Deposit.make files settings.templatesDir filename (.workbook d)).result with
  | ok path => exact ⟨rfl, Or.inl ⟨path, rfl, rfl⟩⟩
  | error e => exact ⟨rfl, Or.inr ⟨e, rfl, rfl⟩⟩

/-- A generation ends before storing, or delivers the prepared document. -/
inductive GenerateEnds (settings : Settings) (files : FileSystem FileContent) (request : Json)
    (persist : Option Bool) : Except ServiceError Generated → FileSystem FileContent → Prop
  | unprepared {e : ServiceError} (h : (prepare settings request).outcome = .error e) :
      GenerateEnds settings files request persist (.error e) files
  | passed {d : Document} (h : (prepare settings request).outcome = .ok d)
      (hkeep : keeps settings persist = false) :
      GenerateEnds settings files request persist (.ok ⟨Filename.derive request, d, none⟩) files
  | unstored {d : Document} {e : StoreFailure} (h : (prepare settings request).outcome = .ok d)
      (hkeep : keeps settings persist = true)
      (he : (Deposit.make files settings.templatesDir (Filename.derive request)
        (.workbook d)).result = .error e) :
      GenerateEnds settings files request persist (.error (.store e))
        (Deposit.make files settings.templatesDir (Filename.derive request) (.workbook d)).files
  | stored {d : Document} {path : Path} (h : (prepare settings request).outcome = .ok d)
      (hkeep : keeps settings persist = true)
      (hpath : (Deposit.make files settings.templatesDir (Filename.derive request)
        (.workbook d)).result = .ok path) :
      GenerateEnds settings files request persist
        (.ok ⟨Filename.derive request, d, some path⟩)
        (Deposit.make files settings.templatesDir (Filename.derive request) (.workbook d)).files

theorem generate_cases (settings : Settings) (files : FileSystem FileContent) (request : Json)
    (persist : Option Bool) :
    GenerateEnds settings files request persist (generate settings files request persist).result
      (generate settings files request persist).files := by
  -- first whether there is a document, then whether it is kept, then whether it can be
  cases hprepared : (prepare settings request).outcome with
  | error e =>
    obtain ⟨hresult, hfiles⟩ := generate_of_error hprepared files persist
    rw [hresult, hfiles]
    exact .unprepared hprepared
  | ok d =>
    rw [generate_of_ok hprepared]
    cases hkeep : keeps settings persist with
    | false => exact .passed hprepared hkeep
    | true =>
      rw [if_pos rfl]
      obtain ⟨hfiles, ⟨path, hpath, hresult⟩ | ⟨e, he, hresult⟩⟩ := deliverKept_cases settings
        files (Filename.derive request) d (prepare settings request).events
      · rw [hfiles, hresult]
        exact .stored hprepared hkeep hpath
      · rw [hfiles, hresult]
        exact .unstored hprepared hkeep he

theorem generationLeaves (hdirectory : settings.templatesDir.Tidy) :
    GenerationLeaves settings files request persist := by
  have hends := generate_cases settings files request persist
  constructor
  all_goals
    generalize (generate settings files request persist).result = result at hends ⊢
    generalize (generate settings files request persist).files = new at hends ⊢
  · intro e hno he
    cases hends with
    | unprepared => rfl
    | unstored => exact absurd (Except.error.inj he).symm (hno _)
    | passed | stored => cases he
  · intro g hok hno
    cases hends with
    | passed => rfl
    | stored _ hkeep _ => cases hkeep.symm.trans hno
    | unprepared | unstored => cases hok
  · intro g hok hyes
    cases hends with
    | passed _ hkeep => cases hkeep.symm.trans hyes
    | stored _ _ hpath =>
      obtain rfl := Except.ok.inj hok
      -- the derived name has its extension already
      obtain ⟨-, hstored⟩ := Deposit.stored_make hdirectory hpath
      rw [Filename.withExtension_derive] at hstored
      dsimp only
      exact hstored
    | unprepared | unstored => cases hok

end Service

/-! ### Endpoints -/

/-- Only the endpoint for generating has an effect on files. -/
theorem Http.Server.files_answer {server : Server} {request : Request}
    (h : server.route? request ≠ some .generate) :
    (server.answer request).1.files = server.files := by
  have hdispatch : (server.dispatch request).1 = server := by
    -- without a route, or by another method, nothing is done; the other routes only answer
    unfold dispatch
    split
    · rfl
    · next route hroute =>
      split
      · cases route with
        | generate => exact absurd hroute h
        | health | ready | validate | docs | docsRedirect | reference | description => rfl
      · rfl
  exact congrArg Server.files hdispatch

/-! ### Builds from the command line -/

namespace Cli

/-- What a run that is asked to build the request in a file leaves behind. -/
structure BuildLeaves (room : Room) (environment : List (String × String))
    (files : FileSystem FileContent) (args : List String) (file : String)
    (output : Option String) (scanData : Bool) : Prop where
  /-- No file is touched but the one named after the request in the output directory. -/
  only : ∀ place, (run room environment files args).files.file? place ≠ files.file? place →
    ∃ request, Holds room.reading files file request ∧
      place = files.goal (outputDirectory output) ++ [Filename.derive request]
  /-- A run that succeeds has stored the document of the request there. -/
  stored : ∀ report, (run room environment files args).ending = .ok report → report.code = 0 →
    ∃ settings request document, Settings.ofFiles environment files = .ok settings ∧
      Holds room.reading files file request ∧
      (Service.prepare (withScan settings scanData) request).outcome = .ok document ∧
      Store.Stored files (run room environment files args).files (outputDirectory output)
        (Filename.derive request) (.workbook document)
  /-- A run that comes to no document has changed nothing, and says why there is none if there was
  room for the request. -/
  failed : ∀ settings request e, Settings.ofFiles environment files = .ok settings →
    Holds room.reading files file request →
    (Service.prepare (withScan settings scanData) request).outcome = .error e →
      (run room environment files args).files = files ∧
        (request.fits room.generating = true →
          (run room environment files args).ending = Report.ofServiceError e)
  /-- A run that has no room for the request has changed nothing either. -/
  crowded : ∀ request, Holds room.reading files file request →
    ¬ request.fits room.generating = true → (run room environment files args).files = files

variable {room : Room} {environment : List (String × String)} {files : FileSystem FileContent}
  {args : List String} {file : String} {output : Option String} {scanData : Bool}

section Write

variable {directory : Path} {filename : String} {d : Document}

theorem Run.files_write (files : FileSystem FileContent) (directory : Path) (filename : String)
    (d : Document) (saved : Option Path) (events : List Event) :
    (write files directory ⟨filename, d, saved⟩ events).files
      = (Deposit.make files directory filename (.workbook d)).files := by
  rw [write]

/-- Writing a document that can be stored stores it and succeeds. -/
theorem Run.write_of_stored (hdirectory : directory.Tidy) {path : Path}
    (hpath : (Deposit.make files directory filename (.workbook d)).result = .ok path)
    (saved : Option Path) (events : List Event) :
    (write files directory ⟨filename, d, saved⟩ events).ending
        = .ok (.written path ⟨filename, d, saved⟩) ∧
      Store.Stored files (write files directory ⟨filename, d, saved⟩ events).files directory
        (Filename.withExtension filename) (.workbook d) := by
  rw [files_write]
  refine ⟨?_, (Deposit.stored_make hdirectory hpath).2⟩
  unfold write
  dsimp only
  rw [hpath]

/-- Writing a document that cannot be stored touches no file and does not succeed. -/
theorem Run.write_of_not_stored (hdirectory : directory.Tidy) {e : StoreFailure}
    (he : (Deposit.make files directory filename (.workbook d)).result = .error e)
    (saved : Option Path) (events : List Event) :
    (write files directory ⟨filename, d, saved⟩ events).ending
        = Report.ofServiceError (.store e) ∧
      FileSystem.SameFiles files (write files directory ⟨filename, d, saved⟩ events).files := by
  rw [files_write]
  refine ⟨?_, Deposit.sameFiles_make hdirectory he⟩
  unfold write
  dsimp only
  rw [he]

/-- Writing a document changes one file, and succeeds only if it has been stored. -/
theorem Run.write_leaves (files : FileSystem FileContent) (hdirectory : directory.Tidy)
    (filename : String) (d : Document) (saved : Option Path) (events : List Event) :
    (∀ place, place ≠ files.goal directory ++ [Filename.withExtension filename] →
      (write files directory ⟨filename, d, saved⟩ events).files.file? place
        = files.file? place) ∧
    ∀ report, (write files directory ⟨filename, d, saved⟩ events).ending = .ok report →
      report.code = 0 →
        Store.Stored files (write files directory ⟨filename, d, saved⟩ events).files directory
          (Filename.withExtension filename) (.workbook d) := by
  -- a document that was not stored may have left directories behind, which are no files
  cases hresult : (Deposit.make files directory filename (.workbook d)).result with
  | ok path =>
    obtain ⟨-, hstored⟩ := write_of_stored hdirectory hresult saved events
    exact ⟨hstored.file?.2, fun _ _ _ => hstored⟩
  | error e =>
    obtain ⟨hending, hsame⟩ := write_of_not_stored hdirectory hresult saved events
    refine ⟨fun place _ => hsame.file? place, fun report hreport hcode => ?_⟩
    rw [hending] at hreport
    rw [code_of_ofServiceError hreport] at hcode
    cases hcode

end Write

theorem tidy_outputDirectory (output : Option String) : (outputDirectory output).Tidy :=
  Path.tidy_ofString _

/-- Where there is no room for the request in the file, nothing is done. -/
theorem run_build_of_not_fits {request : Json}
    (hargs : Invocation.read args = .ok (.build file output scanData))
    (hfile : Holds room.reading files file request)
    (hfits : ¬ request.fits room.generating = true) :
    (run room environment files args).files = files := by
  rcases run_build_cases hargs with ⟨settings, request', -, hfile', hfits'⟩ | ⟨hfiles, -⟩
  · obtain rfl := hfile.unique hfile'
    exact absurd hfits' hfits
  · exact hfiles

theorem buildLeaves (hargs : Invocation.read args = .ok (.build file output scanData)) :
    BuildLeaves room environment files args file output scanData := by
  have hfailed : ∀ settings request e, Settings.ofFiles environment files = .ok settings →
      Holds room.reading files file request →
      (Service.prepare (withScan settings scanData) request).outcome = .error e →
        (run room environment files args).files = files ∧
          (request.fits room.generating = true →
            (run room environment files args).ending = Report.ofServiceError e) := by
    intro settings request e hsettings hfile he
    by_cases hfits : request.fits room.generating = true
    · rw [run_build hargs hsettings hfile hfits]
      obtain ⟨hfiles, hending⟩ := Run.build_of_error he files (outputDirectory output)
      exact ⟨hfiles, fun _ => hending⟩
    · exact ⟨run_build_of_not_fits hargs hfile hfits, fun h => absurd h hfits⟩
  have hcrowded : ∀ request, Holds room.reading files file request →
      ¬ request.fits room.generating = true → (run room environment files args).files = files :=
    fun _ => run_build_of_not_fits hargs
  rcases run_build_cases hargs with
    ⟨settings, request, hsettings, hfile, hfits⟩ | ⟨hfiles, hcode⟩
  · cases hprepared : (Service.prepare (withScan settings scanData) request).outcome with
    | error e =>
      obtain ⟨hfiles, hending⟩ := hfailed settings request e hsettings hfile hprepared
      -- why there is no document is reported, and never with code 0
      refine ⟨fun place hplace => ?_, fun report hreport hcode => ?_, hfailed, hcrowded⟩
      · rw [hfiles] at hplace
        exact absurd rfl hplace
      · rw [hending hfits] at hreport
        rw [Run.code_of_ofServiceError hreport] at hcode
        cases hcode
    | ok document =>
      obtain ⟨events, hbuild⟩ := Run.build_of_prepared hprepared files (outputDirectory output)
      have hrun := (run_build hargs hsettings hfile hfits).trans hbuild
      obtain ⟨honly, hstored⟩ := Run.write_leaves files (tidy_outputDirectory output)
        (Filename.derive request) document none events
      rw [← hrun] at honly hstored
      rw [Filename.withExtension_derive] at honly hstored
      refine ⟨fun place hplace => ⟨request, hfile, ?_⟩, fun report hreport hcode => ?_, hfailed,
        hcrowded⟩
      · exact not_imp_comm.mp (honly place) hplace
      · exact ⟨settings, request, document, hsettings, hfile, hprepared,
          hstored report hreport hcode⟩
  · -- without settings or a request nothing is done
    refine ⟨fun place hplace => ?_, fun report hreport hzero => ?_, hfailed, hcrowded⟩
    · rw [hfiles] at hplace
      exact absurd rfl hplace
    · rw [hcode report hreport] at hzero
      cases hzero

end Cli

/-! ### The result -/

/-- **What is left on disk.** A generation, a call of an endpoint and a run of the program leave the
files as they were, unless they have a workbook to store; then they store it and touch nothing
else. -/
theorem files_left :
    (∀ settings text, settings.templatesDir = .ofString text →
      ∀ files request persist, Service.GenerationLeaves settings files request persist) ∧
    (∀ (server : Http.Server) (request : Http.Request), server.route? request ≠ some .generate →
      (server.answer request).1.files = server.files) ∧
    (∀ room environment files args,
      (∀ file output scanData,
        Cli.Invocation.read args ≠ .ok (.build file output scanData)) →
      (Cli.run room environment files args).files = files) ∧
    (∀ room environment files args file output scanData,
      Cli.Invocation.read args = .ok (.build file output scanData) →
      Cli.BuildLeaves room environment files args file output scanData) := by
  refine ⟨fun settings text hdirectory files request persist => ?_,
    fun server request => Http.Server.files_answer,
    fun room environment files args => Cli.run_files_of_not_build,
    fun room environment files args file output scanData => Cli.buildLeaves⟩
  exact Service.generationLeaves (hdirectory ▸ Path.tidy_ofString text)

/-- A working directory with a request in it. -/
def requestFiles : FileSystem FileContent :=
  ⟨.directory [("work", .directory [("r.json", .file (.octets (zerosBody 2)))])], ["work"]⟩

/-- Settings that make every workbook kept. -/
def keepingSettings : Settings := { Settings.defaults with persistGenerated := true }

/-- A workbook is kept because the settings say so, the same is not because the caller says so, and
one is written by the program. -/
theorem files_left_small :
    (∃ g, (Service.generate keepingSettings .empty (oneValueRequest 100) none).result = .ok g ∧
      Store.Stored .empty
        (Service.generate keepingSettings .empty (oneValueRequest 100) none).files
        (.ofString "templates") g.filename (.workbook g.document)) ∧
    (Service.generate keepingSettings .empty (oneValueRequest 100) (some false)).files = .empty ∧
    ∃ request document, Cli.Holds none requestFiles "r.json" request ∧
      Store.Stored requestFiles
        (Cli.run .unbounded [] requestFiles ["build", "r.json", "-o", "out"]).files
        (.ofString "out") (Filename.derive request) (.workbook document) := by
  obtain ⟨hgenerate, -, -, hbuild⟩ := files_left
  obtain ⟨g, hg, -⟩ := exists_ok_of_map
    (show (Service.generate keepingSettings .empty (oneValueRequest 100) none).result.toOption.map
      Generated.filename = some "q.xlsx" by decide +kernel)
  obtain ⟨g', hg', -⟩ := exists_ok_of_map
    (show (Service.generate keepingSettings .empty (oneValueRequest 100)
      (some false)).result.toOption.map Generated.filename = some "q.xlsx" by decide +kernel)
  obtain ⟨report, hreport, hcode⟩ := exists_ok_of_map
    (show (Cli.run .unbounded [] requestFiles ["build", "r.json", "-o", "out"]).ending.toOption.map
      Cli.Report.code = some 0 by decide +kernel)
  have hargs : Cli.Invocation.read ["build", "r.json", "-o", "out"]
      = .ok (.build "r.json" (some "out") false) := by decide +kernel
  obtain ⟨_, request, document, -, hfile, -, hstored⟩ :=
    (hbuild .unbounded [] requestFiles _ _ _ _ hargs).stored report hreport hcode
  exact ⟨⟨g, hg, (hgenerate keepingSettings "templates" rfl .empty _ none).stored g hg rfl⟩,
    (hgenerate keepingSettings "templates" rfl .empty _ (some false)).passed g' hg' rfl,
    request, document, hfile, hstored⟩

end Gridwork
