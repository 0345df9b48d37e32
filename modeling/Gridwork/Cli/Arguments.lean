import Gridwork.Cli.Word
import Gridwork.Number.Whole
import Gridwork.Text.Quoted

/-!
# Arguments

`Invocation.read` reads the arguments of the program from left to right: options in front of the
command, the command, its options and its operands in any order. The last value of an option counts.
A request for help ends the reading, and so does the first fault; words that nobody knows are
collected and reported at the end.
-/

namespace Gridwork.Cli

/-- What is wrong with the arguments. -/
inductive ArgumentFault where
  | ambiguous (a : Ambiguity)
  | valueMissing (opt : Opt)
  | valueIgnored (opt : Opt) (text : String)
  | notInteger (opt : Opt) (text : String)
  | unknownCommand (name : String)
  | operandMissing (name : String)
  | unrecognized (words : List String)
  deriving DecidableEq, Repr

/-- The wording of a fault. -/
def ArgumentFault.message : ArgumentFault → String
  | .ambiguous a =>
    "ambiguous option: " ++ a.text ++ " could match " ++ ", ".intercalate a.spellings
  | .valueMissing o => "argument " ++ o.label ++ ": expected one argument"
  | .valueIgnored o text =>
    "argument " ++ o.label ++ ": ignored explicit argument " ++ Text.quoted text
  | .notInteger o text => "argument " ++ o.label ++ ": invalid int value: " ++ Text.quoted text
  | .unknownCommand name =>
    "argument command: invalid choice: " ++ Text.quoted name ++ " (choose from "
      ++ ", ".intercalate (Command.all.map fun c => Text.quoted c.name) ++ ")"
  | .operandMissing name => "the following arguments are required: " ++ name
  | .unrecognized words => "unrecognized arguments: " ++ " ".intercalate words

/-- Why the arguments name nothing to do: help is asked for, or they are at fault. -/
inductive Stop where
  | help
  | fault (f : ArgumentFault)
  deriving DecidableEq, Repr

/-! ### The options of one word -/

/-- An option and the value it was given. -/
structure Given where
  opt : Opt
  value : Option String
  deriving DecidableEq, Repr

/-- The options in one word, and whether the last one waits for a value in the next word. -/
structure Group where
  given : List Given
  waiting : Option Opt
  deriving DecidableEq, Repr

namespace Group

/-- An option with nothing attached to it. -/
def ofOption (o : Opt) : Group := if o.takesValue then ⟨[], some o⟩ else ⟨[⟨o, none⟩], none⟩

/-- An option with a value attached to it. -/
def ofAssigned (o : Opt) (value : String) : Except ArgumentFault Group :=
  if o.takesValue then .ok ⟨[⟨o, some value⟩], none⟩ else .error (.valueIgnored o value)

/-- Puts a flag in front of a group. -/
def cons (o : Opt) (g : Group) : Group := { g with given := ⟨o, none⟩ :: g.given }

/-- A short option with text attached to it: its value, or else the letters of more short options.
The fault of a letter that nobody knows is put down to the option before it. -/
def ofLetters (options : List Opt) (o : Opt) : List Char → Except ArgumentFault Group
  | [] => .ok (ofOption o)
  | c :: rest =>
    if o.takesValue then ofAssigned o (String.ofList (c :: rest))
    else
      match (Word.spelled options).lookup (String.ofList ['-', c]) with
      | some next => (ofLetters options next rest).map (cons o)
      | none => .error (.valueIgnored o (String.ofList (c :: rest)))

/-- Whether a spelling is short: one dash and a letter. -/
def isShort (spelling : String) : Bool := spelling.length == 2

/-- The options of a word that begins with an option. -/
def ofWord (options : List Opt) (o : Opt) (spelling : String) (attached : Option String) :
    Except ArgumentFault Group :=
  match attached with
  | none => .ok (ofOption o)
  | some text =>
    if isShort spelling && !text.isEmpty then ofLetters options o text.toList
    else ofAssigned o text

end Group

/-! ### The arguments of a command -/

/-- What the arguments of a command have said so far. -/
structure Arguments where
  file : Option String
  output : Option String
  scanData : Bool
  host : Option String
  port : Option Int
  extra : List String
  deriving DecidableEq, Repr

namespace Arguments

/-- Nothing has been said. -/
def none : Arguments := ⟨.none, .none, false, .none, .none, []⟩

/-- Adds words that nobody knows. -/
def addExtra (a : Arguments) (words : List String) : Arguments :=
  { a with extra := a.extra ++ words }

/-- Heeds an option. -/
def heed (a : Arguments) (g : Given) : Except Stop Arguments :=
  match g.opt with
  | .help => .error .help
  | .output => .ok { a with output := g.value }
  | .scanData => .ok { a with scanData := true }
  | .host => .ok { a with host := g.value }
  | .port =>
    match g.value with
    | .none => .ok a
    | some text =>
      match Whole.read? text with
      | some n => .ok { a with port := some n }
      | .none => .error (.fault (.notInteger .port text))

/-- Heeds options from left to right. -/
def heedAll (a : Arguments) (given : List Given) : Except Stop Arguments := given.foldlM heed a

/-- Reads the words behind a command. Two dashes count only next to the operand that is taken. -/
def readWords (command : Command) (a : Arguments) : List Word → Except Stop Arguments
  | [] => .ok a
  | .operand text :: rest =>
    if command.takesFile && a.file.isNone then
      let a := { a with file := some text }
      match rest with
      | .dashes :: rest => readWords command a rest
      | rest => readWords command a rest
    else readWords command (a.addExtra [text]) rest
  | .dashes :: .operand text :: rest =>
    if command.takesFile && a.file.isNone then readWords command { a with file := some text } rest
    else readWords command (a.addExtra ["--", text]) rest
  | .dashes :: rest => readWords command (a.addExtra ["--"]) rest
  | .unknown text :: rest => readWords command (a.addExtra [text]) rest
  | .option o spelling attached :: rest =>
    match Group.ofWord command.options o spelling attached with
    | .error f => .error (.fault f)
    | .ok group =>
      match group.waiting, rest with
      | .none, rest =>
        match a.heedAll group.given with
        | .ok a => readWords command a rest
        | .error stop => .error stop
      | some waiting, .operand value :: rest =>
        match a.heedAll (group.given ++ [⟨waiting, some value⟩]) with
        | .ok a => readWords command a rest
        | .error stop => .error stop
      | some waiting, _ => .error (.fault (.valueMissing waiting))

/-- The name of the operand of a command. -/
def operandName := "config"

/-- Reads the arguments behind a command. -/
def read (command : Command) (args : List String) : Except Stop Arguments :=
  match Word.readAll command.options args with
  | .error a => .error (.fault (.ambiguous a))
  | .ok words =>
    match readWords command none words with
    | .error stop => .error stop
    | .ok a =>
      if command.takesFile && a.file.isNone then .error (.fault (.operandMissing operandName))
      else .ok a

end Arguments

/-! ### The whole command line -/

/-- What the program is asked to do. -/
inductive Invocation where
  | build (file : String) (output : Option String) (scanData : Bool)
  | validate (file : String) (scanData : Bool)
  | serve (host : Option String) (port : Option Int)
  deriving DecidableEq, Repr

/-- Why there is nothing to do, and the command that says so, if one had been named. -/
structure Refusal where
  command : Option Command
  stop : Stop
  deriving DecidableEq, Repr

namespace Invocation

/-- What a command is asked to do. -/
def ofArguments (a : Arguments) : Command → Invocation
  | .build => .build (a.file.getD "") a.output a.scanData
  | .validate => .validate (a.file.getD "") a.scanData
  | .serve => .serve a.host a.port

/-- Reads the arguments behind the name of a command; `extra` holds unknown words before it. -/
def readCommand (extra : List String) (name : String) (args : List String) :
    Except Refusal Invocation :=
  match Command.ofName? name with
  | none => .error ⟨none, .fault (.unknownCommand name)⟩
  | some command =>
    match Arguments.read command args with
    | .error stop => .error ⟨some command, stop⟩
    | .ok a =>
      match extra ++ a.extra with
      | [] => .ok (ofArguments a command)
      | words => .error ⟨none, .fault (.unrecognized words)⟩

/-- What an option in front of the command leads to. -/
def leadingStop (o : Opt) (spelling : String) (attached : Option String) : Stop :=
  match Group.ofWord leadingOptions o spelling attached with
  | .ok _ => .help
  | .error f => .fault f

/-- Reads the arguments of the program; `extra` holds the unknown words read so far. -/
def readFrom (extra : List String) : List String → Except Refusal Invocation
  | [] => .error ⟨none, .fault (.operandMissing "command")⟩
  | ["--"] => .error ⟨none, .fault (.operandMissing "command")⟩
  | word :: rest =>
    if word = "--" then .error ⟨none, .fault (.unknownCommand word)⟩
    else
      match Word.read leadingOptions word with
      | .ok (.operand name) => readCommand extra name rest
      | .ok (.option o spelling attached) => .error ⟨none, leadingStop o spelling attached⟩
      | .ok _ => readFrom (extra ++ [word]) rest
      | .error a => .error ⟨none, .fault (.ambiguous a)⟩

/-- Reads the arguments of the program. -/
def read (args : List String) : Except Refusal Invocation := readFrom [] args

end Invocation

end Gridwork.Cli
