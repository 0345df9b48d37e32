import Gridwork.Cli.Run
import Gridwork.Proofs.Service.Generation

/-!
# What a run of the program comes to

Once the arguments and the settings have been read, a run that works on a request file comes down to
the request in it (`Cli.Holds`). If there is none, or no room for it, the run ends with code 1 or
breaks off, and has touched nothing (`run_build_cases`). Otherwise it is a validation
(`run_validate`) or a build (`run_build`), and a build writes the document that was prepared, if
there is one (`Run.build_of_prepared`), or reports why there is none (`Run.build_of_error`).
-/

namespace Gridwork.Cli

/-! ### Request files -/

/-- The request that a file holds. -/
structure Holds (room : Option Nat) (files : FileSystem FileContent) (file : String)
    (request : Json) : Prop where
  named : ¬ file.toList.contains '\x00' = true
  read : ∃ content, files.readFile file = .ok content ∧
    readRequest room file content = .ok (.ok request)

variable {bound : Option Nat} {files : FileSystem FileContent} {file : String} {request : Json}

/-- A file holds one request at most. -/
theorem Holds.unique {request' : Json} (h : Holds bound files file request)
    (h' : Holds bound files file request') : request = request' := by
  obtain ⟨content, hcontent, hrequest⟩ := h.read
  obtain ⟨content', hcontent', hrequest'⟩ := h'.read
  obtain rfl := Except.ok.inj (hcontent.symm.trans hcontent')
  exact Except.ok.inj (Except.ok.inj (hrequest.symm.trans hrequest'))

theorem withRequest_of_holds (h : Holds bound files file request) (k : Json → Run) :
    Run.withRequest bound files file k = k request := by
  obtain ⟨content, hcontent, hrequest⟩ := h.read
  unfold Run.withRequest
  rw [if_neg h.named, hcontent]
  dsimp only
  rw [hrequest]

theorem code_of_readRequest {content : FileContent} {report : Report}
    (h : readRequest bound file content = .ok (.error report)) : report.code = 1 := by
  unfold readRequest at h
  split at h
  · cases h
  · split at h
    · cases h
    · obtain rfl := Except.error.inj (Except.ok.inj h)
      rfl
    · cases h
    · cases h

/-- A file that holds no request ends the run. -/
theorem withRequest_cases (bound : Option Nat) (files : FileSystem FileContent) (file : String)
    (k : Json → Run) :
    (∃ request, Holds bound files file request) ∨
      ∃ ending, Run.withRequest bound files file k = Run.ended files ending ∧
        ∀ report, ending = .ok report → report.code = 1 := by
  unfold Run.withRequest
  split
  · exact Or.inr ⟨_, rfl, fun report h => by cases h⟩
  next hnamed =>
  split
  · refine Or.inr ⟨_, rfl, fun report h => ?_⟩
    obtain rfl := Except.ok.inj h
    rfl
  next content hcontent =>
  split
  · exact Or.inr ⟨_, rfl, fun report h => by cases h⟩
  · next found hfound =>
    refine Or.inr ⟨_, rfl, fun report h => ?_⟩
    obtain rfl := Except.ok.inj h
    exact code_of_readRequest hfound
  · next request hrequest => exact Or.inl ⟨request, hnamed, content, hcontent, hrequest⟩

theorem within_of_fits (h : request.fits bound = true) (files : FileSystem FileContent)
    (k : Json → Run) : Run.within bound files k request = k request := by
  rw [Run.within, if_pos h]

/-- Where there is no room for a request the run breaks off. -/
theorem within_of_not_fits (h : ¬ request.fits bound = true) (files : FileSystem FileContent)
    (k : Json → Run) :
    Run.within bound files k request = Run.ended files (.error .tooDeep) := by
  rw [Run.within, if_neg h]

/-! ### Whole runs -/

variable {room : Room} {environment : List (String × String)} {args : List String}
  {settings : Settings}

theorem run_eq_perform {invocation : Invocation} (hargs : Invocation.read args = .ok invocation)
    (hsettings : Settings.ofFiles environment files = .ok settings) :
    run room environment files args = Run.perform room settings files invocation := by
  unfold run
  rw [hargs]
  dsimp only
  rw [hsettings]

/-- A run that is asked to build a request. -/
theorem run_build {output : Option String} {scanData : Bool}
    (hargs : Invocation.read args = .ok (.build file output scanData))
    (hsettings : Settings.ofFiles environment files = .ok settings)
    (hfile : Holds room.reading files file request)
    (hfits : request.fits room.generating = true) :
    run room environment files args
      = Run.build (withScan settings scanData) files (outputDirectory output) request := by
  rw [run_eq_perform hargs hsettings]
  exact (withRequest_of_holds hfile _).trans (within_of_fits hfits files _)

/-- A run that is asked to validate a request. -/
theorem run_validate {scanData : Bool}
    (hargs : Invocation.read args = .ok (.validate file scanData))
    (hsettings : Settings.ofFiles environment files = .ok settings)
    (hfile : Holds room.reading files file request)
    (hfits : request.fits room.checking = true) :
    run room environment files args
      = Run.validate (withScan settings scanData) files request := by
  rw [run_eq_perform hargs hsettings]
  exact (withRequest_of_holds hfile _).trans (within_of_fits hfits files _)

/-- A run that is to build something and finds no request, no room for it, or no settings, touches
nothing. -/
theorem run_build_cases {output : Option String} {scanData : Bool}
    (hargs : Invocation.read args = .ok (.build file output scanData)) :
    (∃ settings request, Settings.ofFiles environment files = .ok settings ∧
      Holds room.reading files file request ∧ request.fits room.generating = true) ∨
      (run room environment files args).files = files ∧
        ∀ report, (run room environment files args).ending = .ok report → report.code = 1 := by
  cases hsettings : Settings.ofFiles environment files with
  -- the settings come before the request file
  | error e =>
    refine Or.inr ?_
    unfold run
    rw [hargs]
    dsimp only
    rw [hsettings]
    exact ⟨rfl, fun report h => by cases h⟩
  | ok settings =>
    rw [run_eq_perform hargs hsettings]
    unfold Run.perform
    dsimp only
    generalize Run.build (withScan settings scanData) files (outputDirectory output) = k
    rcases withRequest_cases room.reading files file (Run.within room.generating files k)
      with ⟨request, hfile⟩ | ⟨ending, hending, hcode⟩
    · by_cases hfits : request.fits room.generating = true
      · exact Or.inl ⟨settings, request, rfl, hfile, hfits⟩
      · rw [withRequest_of_holds hfile, within_of_not_fits hfits]
        exact Or.inr ⟨rfl, fun report h => by cases h⟩
    · rw [hending]
      exact Or.inr ⟨rfl, hcode⟩

/-- Only building has an effect on files. -/
theorem run_files_of_not_build
    (h : ∀ file output scanData, Invocation.read args ≠ .ok (.build file output scanData)) :
    (run room environment files args).files = files := by
  unfold run
  split
  · rfl
  next invocation hargs =>
  split
  · rfl
  next settings hsettings =>
  cases invocation with
  | build file output scanData => exact absurd hargs (h file output scanData)
  | serve host port => rfl
  -- a validation hands the files on, and so does a run that has no request
  | validate file scanData =>
    unfold Run.perform
    dsimp only
    rcases withRequest_cases room.reading files file
      (Run.within room.checking files (Run.validate (withScan settings scanData) files))
      with ⟨request, hfile⟩ | ⟨ending, hending, -⟩
    · rw [withRequest_of_holds hfile, Run.within]
      split <;> rfl
    · rw [hending]
      rfl

/-! ### Builds -/

namespace Run

/-- A failed generation is never reported as a success. -/
theorem code_of_ofServiceError {e : ServiceError} {report : Report}
    (h : Report.ofServiceError e = .ok report) : report.code = 1 := by
  unfold Report.ofServiceError at h
  split at h
  case h_2 =>
    -- an error of building has a wording or none
    split at h
    · cases h
      rfl
    · cases h
  all_goals cases h
  all_goals rfl

/-- A build without a document says why there is none, and touches nothing. -/
theorem build_of_error {e : ServiceError}
    (h : (Service.prepare settings request).outcome = .error e) (files : FileSystem FileContent)
    (directory : Path) :
    (build settings files directory request).files = files ∧
      (build settings files directory request).ending = Report.ofServiceError e := by
  obtain ⟨hresult, hfiles⟩ := Service.generate_of_error h files (some false)
  unfold build
  dsimp only
  rw [hresult]
  exact ⟨hfiles, rfl⟩

/-- A build with a document writes it, whatever is kept otherwise. -/
theorem build_of_prepared {d : Document} (h : (Service.prepare settings request).outcome = .ok d)
    (files : FileSystem FileContent) (directory : Path) :
    ∃ events, build settings files directory request
      = write files directory ⟨Filename.derive request, d, none⟩ events := by
  -- the program itself decides where to write, so the service is told to keep nothing
  have hkept : Service.keeps settings (some false) = false := rfl
  unfold build
  rw [Service.generate_of_ok h, hkept]
  exact ⟨_, rfl⟩

end Run

end Gridwork.Cli
