import Gridwork.Settings.Reference
import Gridwork.Text.Blank

/-!
# Settings files

A settings file holds lines of the form `NAME=value`. A line may begin with `export`; the name and
the value may be quoted, and a quoted value may go over several lines and contain escapes; a hash
behind a blank begins a comment. A line that is not of this form is passed over. A name may stand
without a value, and a byte order mark may stand in front of the first line.

`read` gives every name its last value, in which references to earlier names and to the environment
have been replaced.
-/

namespace Gridwork.SettingsFile

/-- Whether a character ends a line. -/
def isLineEnd (c : Char) : Bool := c == '\n' || c == '\r'

/-- Whether a character is a blank within a line. -/
def isInlineBlank (c : Char) : Bool := Text.isBlank c && !isLineEnd c

/-- The text behind the blanks of a line. -/
def skipInline (cs : List Char) : List Char := cs.dropWhile isInlineBlank

/-- The text behind the word `export` and at least one blank, if it begins with them. -/
def skipExport (cs : List Char) : List Char :=
  if "export".toList.isPrefixOf cs then
    let rest := cs.drop 6
    if (rest.takeWhile isInlineBlank).isEmpty then cs else skipInline rest
  else cs

/-- A text up to a quote. A character behind a backslash does not count. -/
def quotedPart (quote : Char) : List Char → Option (List Char × List Char)
  | [] => none
  | '\\' :: c :: rest =>
    (quotedPart quote rest).map fun (part, rest) => ('\\' :: c :: part, rest)
  | c :: rest =>
    if c = quote then some ([], rest)
    else (quotedPart quote rest).map fun (part, rest) => (c :: part, rest)

/-- The character that an escape stands for between quotes of the given kind. -/
def escape? (quote : Char) (c : Char) : Option Char :=
  if c = '\\' ∨ c = '\'' then some c
  else if quote = '\'' then none
  else
    match c with
    | '"' => some '"'
    | 'a' => some '\x07'
    | 'b' => some '\x08'
    | 'f' => some '\x0c'
    | 'n' => some '\n'
    | 'r' => some '\r'
    | 't' => some '\t'
    | 'v' => some '\x0b'
    | _ => none

/-- A quoted value with its escapes replaced. -/
def unescape (quote : Char) : List Char → List Char
  | '\\' :: c :: rest =>
    match escape? quote c with
    | some e => e :: unescape quote rest
    | none => '\\' :: unescape quote (c :: rest)
  | c :: rest => c :: unescape quote rest
  | [] => []

/-- An unquoted value without its comment, which begins at a hash behind a blank. -/
def dropComment : List Char → List Char
  | [] => []
  | c :: rest =>
    if Text.isBlank c then
      match (c :: rest).dropWhile Text.isBlank with
      | '#' :: _ => []
      | _ => c :: dropComment rest
    else c :: dropComment rest

/-- Whether a character may stand in an unquoted name. -/
def isNameChar (c : Char) : Bool := c != '=' && c != '#' && !Text.isBlank c

/-- Reads the name of a binding. A comment has none. -/
def readName : List Char → Option (Option (List Char) × List Char)
  | '#' :: rest => some (none, '#' :: rest)
  | '\'' :: rest =>
    let name := rest.takeWhile (· != '\'')
    match rest.dropWhile (· != '\'') with
    | _ :: rest => if name.isEmpty then none else some (some name, rest)
    | [] => none
  | cs =>
    let name := cs.takeWhile isNameChar
    if name.isEmpty then none else some (some name, cs.dropWhile isNameChar)

/-- Reads the value behind the equals sign. The blanks in front of it belong to it as long as it is
not clear whether a comment follows. -/
def readValue (cs : List Char) : Option (List Char × List Char) :=
  match skipInline cs with
  | '\'' :: rest => (quotedPart '\'' rest).map fun (part, rest) => (unescape '\'' part, rest)
  | '"' :: rest => (quotedPart '"' rest).map fun (part, rest) => (unescape '"' part, rest)
  | _ =>
    let line := cs.takeWhile (!isLineEnd ·)
    some (Text.trimChars Text.isBlank (dropComment line), cs.dropWhile (!isLineEnd ·))

/-- The text behind a comment, if there is one. -/
def skipComment (cs : List Char) : List Char :=
  match skipInline cs with
  | '#' :: rest => rest.dropWhile (!isLineEnd ·)
  | _ => cs

/-- Whether nothing more stands on the line. -/
def atLineEnd (cs : List Char) : Bool :=
  match skipInline cs with
  | [] => true
  | c :: _ => isLineEnd c

/-- A name and the value that it may have. -/
structure Binding where
  name : List Char
  value : Option (List Char)
  deriving DecidableEq, Repr

/-- Where a line that is no binding goes on behind its fault. -/
abbrev Fault := List Char

/-- What a reader of a part gives, or a fault at the place where the part should stand. -/
def expecting {α : Type} (place : List Char) : Option α → Except Fault α
  | some a => .ok a
  | none => .error place

/-- Reads the equals sign and the value behind it, if there is one. -/
def readAssigned : List Char → Except Fault (Option (List Char) × List Char)
  | '=' :: rest => do
    let (value, rest) ← expecting (skipInline rest) (readValue rest)
    return (some value, rest)
  | rest => return (none, rest)

/-- Reads a line: its binding, unless it is a comment, and the text behind it. -/
def readLine (cs : List Char) : Except Fault (Option Binding × List Char) := do
  let cs := skipExport cs
  let (name, rest) ← expecting cs (readName cs)
  let (value, rest) ← readAssigned (skipInline rest)
  let rest := skipComment rest
  if atLineEnd rest then return (name.map (⟨·, value⟩), skipInline rest) else throw rest

/-- Reads a line and the text behind it. A line at fault has no binding, and reading goes on behind
the line that the fault is in. -/
def readLineOrSkip (cs : List Char) : Option Binding × List Char :=
  match readLine cs with
  | .ok line => line
  | .error rest => (none, rest.dropWhile (!isLineEnd ·))

/-- The bindings of a settings file. Every line takes at least one character of the text. -/
def bindings (text : List Char) : List Binding :=
  match text.dropWhile Text.isBlank with
  | [] => []
  | cs =>
    let (binding, rest) := readLineOrSkip cs
    if rest.length < text.length then binding.toList ++ bindings rest else binding.toList
termination_by text.length

example : bindings "A=1 # one\nexport B".toList = [⟨['A'], some ['1']⟩, ⟨['B'], none⟩] := by
  decide +kernel

example : bindings "A= # one\nB=#b".toList = [⟨['A'], some []⟩, ⟨['B'], some ['#', 'b']⟩] := by
  decide +kernel

/-! ### Values -/

/-- Names with the values that they may have. -/
abbrev Entries := List (String × Option String)

/-- Sets the value of a name: a name that is there keeps its place, a new one comes last. -/
def Entries.set (name : String) (value : Option String) : Entries → Entries
  | [] => [(name, value)]
  | (n, v) :: rest => if n = name then (n, value) :: rest else (n, v) :: Entries.set name value rest

/-- The value that a reference stands for: that of an earlier name, of the environment, or its
fallback. A name without a value stands for nothing. -/
def referenced (environment : List (String × String)) (earlier : Entries) (r : Reference) :
    String :=
  match earlier.lookup r.name with
  | some value => value.getD ""
  | none => (environment.lookup r.name).getD (r.fallback.getD "")

/-- Adds a binding to the entries before it. -/
def bind (environment : List (String × String)) (earlier : Entries) (b : Binding) : Entries :=
  let value := b.value.map fun cs =>
    String.ofList (Reference.expand (referenced environment earlier) cs)
  earlier.set (String.ofList b.name) value

/-- A text without a byte order mark at its start. -/
def dropMark : List Char → List Char
  | '\uFEFF' :: rest => rest
  | cs => cs

/-- The names of a settings file, each with its last value. -/
def read (environment : List (String × String)) (text : List Char) : Entries :=
  (bindings (dropMark text)).foldl (bind environment) []

end Gridwork.SettingsFile
