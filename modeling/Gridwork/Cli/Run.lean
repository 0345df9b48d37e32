import Gridwork.Cli.Report

/-!
# Runs of the program

`run` runs the program on a file system. Arguments are read first, then the settings, then the
request file; a workbook is written only when it is complete.
-/

namespace Gridwork.Cli

/-- What a run leads to: the files afterwards, how it ended, the events on the way, and the address
that the web service was started on, if it was. -/
structure Run where
  files : FileSystem FileContent
  ending : Except Crash Report
  events : List Event
  served : Option Listener

namespace Run

/-- A run that ends before anything is worth reporting. -/
def ended (files : FileSystem FileContent) (ending : Except Crash Report) : Run :=
  ⟨files, ending, [], none⟩

/-- Hands the request in a file on. -/
def withRequest (room : Option Nat) (files : FileSystem FileContent) (file : String)
    (k : Json → Run) : Run :=
  if file.toList.contains '\x00' then ended files (.error .nulInPath)
  else
    match files.readFile file with
    | .error e => ended files (.ok (.unreadable file e.message))
    | .ok content =>
      match readRequest room file content with
      | .error crash => ended files (.error crash)
      | .ok (.error report) => ended files (.ok report)
      | .ok (.ok request) => k request

/-- Hands a request on for which there is room. -/
def within (room : Option Nat) (files : FileSystem FileContent) (k : Json → Run)
    (request : Json) : Run :=
  if request.fits room then k request else ended files (.error .tooDeep)

/-- Writes a workbook into a directory. -/
def write (files : FileSystem FileContent) (directory : Path) (g : Generated)
    (events : List Event) : Run :=
  let deposit := Deposit.make files directory g.filename (.workbook g.document)
  let ending :=
    match deposit.result with
    | .ok path => .ok (.written path g)
    | .error e => Report.ofServiceError (.store e)
  ⟨deposit.files, ending, events ++ deposit.events, none⟩

/-- Builds a workbook and writes it into a directory; the settings do not make it kept elsewhere. -/
def build (settings : Settings) (files : FileSystem FileContent) (directory : Path)
    (request : Json) : Run :=
  let outcome := Service.generate settings files request (some false)
  match outcome.result with
  | .ok g => write outcome.files directory g outcome.events
  | .error e => ⟨outcome.files, Report.ofServiceError e, outcome.events, none⟩

/-- Validates a request. -/
def validate (settings : Settings) (files : FileSystem FileContent) (request : Json) : Run :=
  let found := Service.check settings request
  ⟨files, .ok (.ofCheck found), rejectionEvents found, none⟩

/-- Does what the program is asked to do. -/
def perform (room : Room) (settings : Settings) (files : FileSystem FileContent) :
    Invocation → Run
  | .build file output scanData =>
    withRequest room.reading files file (within room.generating files
      (build (withScan settings scanData) files (outputDirectory output)))
  | .validate file scanData =>
    withRequest room.reading files file (within room.checking files
      (validate (withScan settings scanData) files))
  | .serve host port => ⟨files, .ok .silent, [], some (listener settings host port)⟩

end Run

/-- Runs the program with environment variables and arguments. -/
def run (room : Room) (environment : List (String × String)) (files : FileSystem FileContent)
    (args : List String) : Run :=
  match Invocation.read args with
  | .error refusal => .ended files (.ok (.ofRefusal refusal))
  | .ok invocation =>
    match Settings.ofFiles environment files with
    | .error e => .ended files (.error (.settings e))
    | .ok settings => Run.perform room settings files invocation

end Gridwork.Cli
