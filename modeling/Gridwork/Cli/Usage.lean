import Gridwork.Cli.Arguments

/-!
# Usage and help

The lines that the program prints about its own command line.
-/

namespace Gridwork.Cli

/-- The name of the program. -/
def programName := "sheetfactory"

/-- The choice of commands in usage lines. -/
def commandChoice : String :=
  "\x7b" ++ ",".intercalate (Command.all.map Command.name) ++ "\x7d"

/-- What the program is called in its messages, with the command if one has been named. -/
def calledName : Option Command → String
  | none => programName
  | some c => programName ++ " " ++ c.name

/-- What may be written behind the name of the program or command. -/
def usageTail : Option Command → String
  | none => "[-h] " ++ commandChoice ++ " ..."
  | some .build => "[-h] [-o OUTPUT] [--scan-data] config"
  | some .validate => "[-h] [--scan-data] config"
  | some .serve => "[-h] [--host HOST] [--port PORT]"

/-- The usage line. -/
def usage (c : Option Command) : String := "usage: " ++ calledName c ++ " " ++ usageTail c ++ "\n"

/-- What help says behind the usage line. -/
def helpLines : Option Command → List String
  | none => [
      "Compile JSON workbook descriptions into .xlsx files",
      "",
      "positional arguments:",
      "  " ++ commandChoice,
      "    build               Build an .xlsx file from a JSON request",
      "    validate            Validate a JSON request file",
      "    serve               Run the HTTP server",
      "",
      "options:",
      "  -h, --help            show this help message and exit"]
  | some .build => [
      "positional arguments:",
      "  config                Path to the JSON request file",
      "",
      "options:",
      "  -h, --help            show this help message and exit",
      "  -o OUTPUT, --output OUTPUT",
      "                        Output directory (default: current directory)",
      "  --scan-data           Also reject path-like values inside header and rows"]
  | some .validate => [
      "positional arguments:",
      "  config       Path to the JSON request file",
      "",
      "options:",
      "  -h, --help   show this help message and exit",
      "  --scan-data  Also reject path-like values inside header and rows"]
  | some .serve => [
      "options:",
      "  -h, --help   show this help message and exit",
      "  --host HOST  Bind address",
      "  --port PORT  Port to listen on"]

/-- The help text. -/
def help (c : Option Command) : String :=
  usage c ++ "\n" ++ String.join ((helpLines c).map (· ++ "\n"))

/-- The report of a fault in the arguments. -/
def complaint (c : Option Command) (f : ArgumentFault) : String :=
  usage c ++ calledName c ++ ": error: " ++ f.message ++ "\n"

end Gridwork.Cli
