import Gridwork.Cli.Option
import Gridwork.Text.Digit
import Gridwork.Text.Split

/-!
# Words of the command line

`Word.read` tells the options among the words of a command line from the operands. A long option may
be shortened as long as only one option begins like that. Text may be attached to an option: behind
an equals sign, or right behind a short option. Behind `--` there are only operands. Negative
numbers, and unknown words that begin with a dash and hold a space, are operands too.
-/

namespace Gridwork.Cli

/-- A word of the command line. An option comes with its spelling in full and the text attached to
it, if there is any. -/
inductive Word where
  | operand (text : String)
  | dashes
  | option (opt : Opt) (spelling : String) (attached : Option String)
  | unknown (text : String)
  deriving DecidableEq, Repr

/-- A word that several options begin with. -/
structure Ambiguity where
  text : String
  spellings : List String
  deriving DecidableEq, Repr

namespace Word

/-- All spellings of options, each with its option. -/
def spelled (options : List Opt) : List (String × Opt) :=
  options.flatMap fun o => o.spellings.map (·, o)

/-- A word up to the first equals sign, and the text behind it. -/
def splitAssigned (word : String) : String × Option String :=
  let cs := word.toList
  match cs.dropWhile (· != '=') with
  | _ :: value => (String.ofList (cs.takeWhile (· != '=')), some (String.ofList value))
  | [] => (word, none)

/-- Whether a word is a negative number, with or without a line feed at the end. -/
def isNegativeNumber (word : String) : Bool :=
  match Text.withoutEnd '\n' word.toList with
  | '-' :: rest =>
    match rest.dropWhile Text.isDecimalDigit with
    | [] => !rest.isEmpty
    | '.' :: places => !places.isEmpty && places.all Text.isDecimalDigit
    | _ => false
  | _ => false

/-- The options that a shortened long option can stand for. -/
def longMatches (options : List Opt) (word : String) : List (String × Word) :=
  let (start, attached) := splitAssigned word
  ((spelled options).filter fun entry => start.toList.isPrefixOf entry.1.toList).map fun entry =>
    (entry.1, .option entry.2 entry.1 attached)

/-- The options that a short option with text behind it can stand for. -/
def shortMatches (options : List Opt) (word : String) : List (String × Word) :=
  let start := String.ofList (word.toList.take 2)
  let rest := String.ofList (word.toList.drop 2)
  ((spelled options).filter fun entry => entry.1 == start).map fun entry =>
    (entry.1, .option entry.2 entry.1 (some rest))

/-- Reads a word that begins with a dash and is no full spelling. -/
def readDashed (options : List Opt) (word : String) : Except Ambiguity Word :=
  let found :=
    if "--".toList.isPrefixOf word.toList then longMatches options word
    else shortMatches options word
  match found with
  | [(_, w)] => .ok w
  | [] =>
    if isNegativeNumber word || word.toList.contains ' ' then .ok (.operand word)
    else .ok (.unknown word)
  | _ => .error ⟨word, found.map (·.1)⟩

/-- Reads one word, given the options that are known. -/
def read (options : List Opt) (word : String) : Except Ambiguity Word :=
  if word.toList.head? ≠ some '-' then .ok (.operand word)
  else
    match (spelled options).lookup word with
    | some o => .ok (.option o word none)
    | none =>
      if word = "-" then .ok (.operand word)
      else
        let (start, attached) := splitAssigned word
        match (spelled options).lookup start with
        | some o => .ok (.option o start attached)
        | none => readDashed options word

/-- Reads the words of a command line. -/
def readAll (options : List Opt) : List String → Except Ambiguity (List Word)
  | [] => .ok []
  | word :: rest =>
    if word = "--" then .ok (.dashes :: rest.map .operand)
    else
      match read options word, readAll options rest with
      | .ok w, .ok ws => .ok (w :: ws)
      | .error e, _ => .error e
      | _, .error e => .error e

end Word

end Gridwork.Cli
