/-!
# Commands and options

The command line has three commands. Each has options of its own, and all have `-h`. An option has
one or two spellings; some options take a value.
-/

namespace Gridwork.Cli

/-- An option. -/
inductive Opt where
  | help
  | output
  | scanData
  | host
  | port
  deriving DecidableEq, Repr

namespace Opt

/-- The spellings of an option. -/
def spellings : Opt → List String
  | .help => ["-h", "--help"]
  | .output => ["-o", "--output"]
  | .scanData => ["--scan-data"]
  | .host => ["--host"]
  | .port => ["--port"]

/-- Whether an option takes a value. -/
def takesValue : Opt → Bool
  | .help => false
  | .output => true
  | .scanData => false
  | .host => true
  | .port => true

/-- The name of an option in messages: all its spellings. -/
def label (o : Opt) : String := "/".intercalate o.spellings

end Opt

/-- A command. -/
inductive Command where
  | build
  | validate
  | serve
  deriving DecidableEq, Repr

namespace Command

/-- The name of a command. -/
def name : Command → String
  | .build => "build"
  | .validate => "validate"
  | .serve => "serve"

/-- All commands. -/
def all : List Command := [.build, .validate, .serve]

/-- The command of a given name. -/
def ofName? (s : String) : Option Command := all.find? (·.name == s)

/-- The options of a command. -/
def options : Command → List Opt
  | .build => [.help, .output, .scanData]
  | .validate => [.help, .scanData]
  | .serve => [.help, .host, .port]

/-- Whether a command works on a request file. -/
def takesFile : Command → Bool
  | .build => true
  | .validate => true
  | .serve => false

end Command

/-- The options in front of the command. -/
def leadingOptions : List Opt := [.help]

end Gridwork.Cli
