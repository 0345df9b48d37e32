import Gridwork.Cli.Run
import Gridwork.Log.Routing
import Std.Time.DateTime.Timestamp

/-!
# The program

The program reads its arguments, its settings and the request file, does what it is asked to do and
prints its report. Log records go to standard error. Listening on a socket is left to a host of the
web service.
-/

namespace Gridwork.Program

/-! ### The world outside -/

/-- The variables of the environment that set something, written in lower or upper case. -/
def environment : IO (List (String × String)) := do
  let mut found := #[]
  for setting in Setting.all do
    for name in [setting.variableName, setting.variableName.toUpper] do
      if let some value ← IO.getEnv name then found := found.push (name, value)
  return found.toList

/-- The kind of an error of the operating system, if it is one of the known kinds. -/
def errno? : IO.Error → Option Errno
  | .noFileOrDirectory .. => some .notFound
  | .alreadyExists .. => some .exists
  | .inappropriateType .. => some .notDirectory
  | _ => none

/-- The wording of an error about a path. -/
def wording (path : String) (e : IO.Error) : String :=
  match errno? e with
  | some errno => (OsError.mk errno path).message
  | none => toString e

/-- The content of a file, or the wording of the error. -/
def read (path : String) : IO (Except String FileContent) := do
  try
    let bytes ← IO.FS.readBinFile path
    return .ok (.octets bytes.toList)
  catch e =>
    return .error (wording path e)

/-- Writes a workbook into a directory, which is made if it is not there. If that fails, the path
and the reason are returned. -/
def write (directory path : Path) (document : Document) : IO (Option (Path × String)) := do
  try
    IO.FS.createDirAll directory.text
  catch e =>
    return some (directory, "cannot create directory: " ++ wording directory.text e)
  try
    IO.FS.writeBinFile path.text (ByteArray.mk document.encode.toArray)
    return none
  catch e =>
    return some (path, wording path.text e)

/-- The point in time. -/
def now : IO Log.Moment := do
  let time ← Std.Time.Timestamp.now
  return .ofMicroseconds (time.toNanosecondsSinceUnixEpoch.val / 1000).toNat

/-- The place that the records of the program name. -/
def origin : Log.Origin := ⟨Cli.programName, "main", "Main", 0⟩

/-- Writes events to the log. -/
def log (settings : Settings) (events : List Event) : IO Unit := do
  if let some logging := Log.Logging.configure? settings.isProduction settings.logLevel true then
    for event in events do
      IO.eprint (logging.write ⟨event.level, event.message, ← now, origin, none, []⟩).printed

/-! ### Commands -/

/-- Prints a report and returns its exit code. -/
def finish (report : Cli.Report) : IO UInt32 := do
  IO.print report.output
  IO.eprint report.errors.printed
  return UInt32.ofNat report.code

/-- Breaks off. -/
def breakOff (crash : Cli.Crash) : IO UInt32 := finish (.fail (crash.lines.map .ofString))

/-- Prints the report of a failure, or breaks off. -/
def finishWith : Except Cli.Crash Cli.Report → IO UInt32
  | .ok report => finish report
  | .error crash => breakOff crash

/-- Hands the request in a file on. -/
def withRequest (file : String) (k : Json → IO UInt32) : IO UInt32 := do
  match ← read file with
  | .error reason => finish (.unreadable file reason)
  | .ok content =>
    match Cli.readRequest none file content with
    | .error crash => breakOff crash
    | .ok (.error report) => finish report
    | .ok (.ok request) => k request

/-- Builds a workbook and writes it into a directory. -/
def build (settings : Settings) (directory : Path) (request : Json) : IO UInt32 := do
  let outcome := Service.generate settings .empty request (some false)
  log settings outcome.events
  match outcome.result with
  | .error e => finishWith (Cli.Report.ofServiceError e)
  | .ok g =>
    let path := directory.child g.filename
    match ← write directory path g.document with
    | some (place, reason) =>
      finish (.error ("Could not save workbook to '" ++ place.text ++ "': " ++ reason : String))
    | none =>
      log settings [.savedWorkbook path.text g.size]
      finish (.written path g)

/-- Validates a request. -/
def validate (settings : Settings) (request : Json) : IO UInt32 := do
  let found := Service.check settings request
  log settings (rejectionEvents found)
  finish (.ofCheck found)

/-- Says where the web service would listen. -/
def serve (l : Cli.Listener) : IO UInt32 :=
  let reason := "The web service needs a host to listen on " ++ l.host ++ ":" ++ toString l.port
  finish (.fail [.ofString reason])

/-- Does what the program is asked to do. -/
def perform (settings : Settings) : Cli.Invocation → IO UInt32
  | .build file output scanData =>
    withRequest file (build (Cli.withScan settings scanData) (Cli.outputDirectory output))
  | .validate file scanData => withRequest file (validate (Cli.withScan settings scanData))
  | .serve host port => serve (Cli.listener settings host port)

/-- Runs the program. -/
def run (args : List String) : IO UInt32 := do
  match Cli.Invocation.read args with
  | .error refusal => finish (.ofRefusal refusal)
  | .ok invocation =>
    match Settings.ofContent (← environment) (← read Settings.fileName).toOption with
    | .error e => breakOff (.settings e)
    | .ok settings => perform settings invocation

end Gridwork.Program

/-- The program. -/
def main (args : List String) : IO UInt32 := Gridwork.Program.run args
