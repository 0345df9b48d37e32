import Gridwork.Cli.Usage
import Gridwork.Json.Reader
import Gridwork.Service
import Gridwork.Settings.Sources

/-!
# What the program reports

A run of the program ends with an exit code and lines on standard output and standard error, or it
breaks off for a reason that it has no words for. The reports here do not depend on how files are
read and written.
-/

namespace Gridwork.Cli

/-- A reason to break off. -/
inductive Crash where
  | settings (e : SettingsFailure)
  | fileNotText
  | tooManyDigits
  | tooDeep
  | nulInPath
  | failure (e : Failure)
  | save (e : SaveError)
  deriving DecidableEq, Repr

/-- The lines that tell why the program breaks off. -/
def Crash.lines : Crash → List String
  | .settings (.invalid errors) => errors.map fun e => e.setting.name ++ ": " ++ e.fault.message
  | .settings .fileNotText => ["The settings file is not text"]
  | .fileNotText => ["The request file is not text"]
  | .tooManyDigits => ["The request holds a number with too many digits"]
  | .tooDeep => ["The request has arrays and objects inside too many others"]
  | .nulInPath => ["A path holds a null character"]
  | .failure _ => ["The workbook cannot be built"]
  | .save _ => ["The workbook cannot be saved"]

/-- An address for the web service to listen on. -/
structure Listener where
  host : String
  port : Int
  deriving DecidableEq, Repr

/-- An exit code and what is printed. -/
structure Report where
  code : Nat
  output : String
  errors : Text
  deriving DecidableEq, Repr

namespace Report

/-- Success. -/
def success (line : String) : Report := ⟨0, line ++ "\n", ""⟩

/-- Success without a word. -/
def silent : Report := ⟨0, "", ""⟩

/-- Failure with lines on standard error. -/
def fail (lines : List Text) : Report := ⟨1, "", .join (lines.map (· ++ "\n"))⟩

/-- The report of arguments that name nothing to do. -/
def ofRefusal (r : Refusal) : Report :=
  match r.stop with
  | .help => ⟨0, help r.command, ""⟩
  | .fault f => ⟨2, "", complaint r.command f⟩

/-- A request file that cannot be read. -/
def unreadable (file reason : String) : Report :=
  fail [("Error: cannot read " ++ file ++ ": " ++ reason : String)]

/-- The lines of violations. -/
def violationLines (found : List Violation) : List Text := found.map fun v => "  - " ++ v.message

/-- A request with violations that was to be built. -/
def invalid (found : List Violation) : Report := fail ("Invalid request:" :: violationLines found)

/-- Any other error. -/
def error (message : Text) : Report := fail ["Error: " ++ message]

/-- The result of a validation. -/
def ofCheck (found : List Violation) : Report :=
  if found.isEmpty then success "Request is valid."
  else
    let heading := "Request has " ++ toString found.length ++ " error(s):"
    fail (heading :: violationLines found)

/-- A workbook that has been written. -/
def written (path : Path) (g : Generated) : Report :=
  success ("Wrote " ++ path.text ++ " (" ++ toString g.sheetCount ++ " sheet(s), "
    ++ toString g.size ++ " bytes)")

/-- The report of a request that was not answered with a workbook, unless it is a reason to break
off. -/
def ofServiceError : ServiceError → Except Crash Report
  | .invalid found => .ok (invalid found)
  | .failure (.build e) =>
    match e.message? with
    | some message => .ok (error message)
    | none => .error (.failure (.build e))
  | .failure e => .error (.failure e)
  | .save e => .error (.save e)
  | .store (.storage e) => .ok (error e.message)
  | .store .nulInPath => .error .nulInPath

end Report

/-! ### Request files -/

/-- Reads the request in a file: the request, or a report that it is malformed. -/
def readRequest (room : Option Nat) (file : String) (content : FileContent) :
    Except Crash (Except Report Json) :=
  match content.text? with
  | none => .error .fileNotText
  | some text =>
    match Json.parse room (String.ofList text) with
    | .ok request => .ok (.ok request)
    | .error (.malformed fault place) =>
      .ok (.error (.unreadable file (Json.malformedMessage fault place)))
    | .error .tooManyDigits => .error .tooManyDigits
    | .error .tooDeep => .error .tooDeep

/-- The settings of a run, in which the caller's data may be ordered to be scanned. -/
def withScan (settings : Settings) (scanData : Bool) : Settings :=
  if scanData then { settings with scanBusinessData := true } else settings

/-- The directory to write into: the working directory unless another one is named. -/
def outputDirectory (output : Option String) : Path := .ofString (output.getD "")

/-- The address to listen on: as given on the command line, or else as the settings say. An empty
host and the port zero count as not given. -/
def listener (settings : Settings) (host : Option String) (port : Option Int) : Listener where
  host := (host.filter (· ≠ "")).getD settings.host
  port := (port.filter (· ≠ 0)).getD settings.port

end Gridwork.Cli
