import Gridwork.Json.Display

/-!
# Exceptions in log records

A record tells of an exception by the name of its type and by its text. The text is made of the
arguments of the exception, and how that is done depends on its type: most types show their
arguments as they are, those of the service make a sentence of them, and those of the operating
system show an error number, a reason and the files that are concerned.
-/

namespace Gridwork.Log

/-- An exception: the name of its type and its text. A record can be asked to tell of the exception
that is being dealt with; if none is, there is neither. -/
structure ExceptionInfo where
  type : Option String
  value : Option Text
  deriving DecidableEq, Repr

/-- How the text of an exception is made of its arguments. -/
inductive ExceptionKind where
  /-- The arguments as they are. -/
  | plain
  /-- A missing key, which is quoted. -/
  | missingKey
  /-- A message and perhaps the field that it is about. -/
  | report
  /-- The violations of a request. -/
  | violations
  /-- A path and the reason why nothing was stored there. -/
  | storage
  /-- An error number, a reason, and perhaps files. -/
  | system
  deriving DecidableEq, Repr

/-! ### Errors of the operating system -/

/-- The type of errors of the operating system that have no type of their own. -/
def systemType := "OSError"

/-- The types of errors of the operating system with the error numbers that they stand for. Trouble
with a connection has a general type too, which no number stands for. -/
def systemTypes : List (String × List Int) :=
  [("BlockingIOError", [11, 114, 115]), ("BrokenPipeError", [32, 108]),
    ("ChildProcessError", [10]), ("ConnectionError", []), ("ConnectionAbortedError", [103]),
    ("ConnectionRefusedError", [111]), ("ConnectionResetError", [104]),
    ("FileExistsError", [17]), ("FileNotFoundError", [2]), ("InterruptedError", [4]),
    ("IsADirectoryError", [21]), ("NotADirectoryError", [20]), ("PermissionError", [1, 13]),
    ("ProcessLookupError", [3]), ("TimeoutError", [110])]

/-- Other names of the type without a number of its own. -/
def systemAliases : List String := ["EnvironmentError", "IOError"]

/-- The type that an error number belongs to. -/
def systemTypeOf (number : Json) : String :=
  match number with
  | .int n => ((systemTypes.find? fun entry => entry.2.contains n).map (·.1)).getD systemType
  | _ => systemType

/-- The files that an error of the operating system is about. An argument that is null names none,
and the second file stands behind an argument that has no meaning here. -/
def systemFiles : List Json → List Json
  | [] => []
  | .null :: _ => []
  | [file, _, other] => if other = .null then [file] else [file, other]
  | file :: _ => [file]

/-- The text of an error of the operating system. -/
def systemText (number reason : Json) (rest : List Json) : Text :=
  let files := (systemFiles rest).map Json.displayQuoted
  "[Errno " ++ number.display ++ "] " ++ reason.display
    ++ (if files.isEmpty then "" else ": " ++ Text.intercalate " -> " files : Text)

/-! ### Texts -/

namespace ExceptionKind

/-- The kind of an exception by the name of its type. -/
def ofType (type : String) : ExceptionKind :=
  if type = "KeyError" then .missingKey
  else if type = "BuildError" ∨ type = "StyleError" then .report
  else if type = "SchemaValidationError" then .violations
  else if type = "StorageError" then .storage
  else if (systemType :: systemAliases ++ systemTypes.map (·.1)).contains type then .system
  else .plain

end ExceptionKind

/-- The text of an exception that shows its arguments as they are: nothing, the only one, or all of
them between parentheses. -/
def plainText : List Json → Text
  | [] => ""
  | [v] => v.display
  | args => "(" ++ Text.intercalate ", " (args.map Json.displayQuoted) ++ ")"

/-- The violations that an argument lists: an array of texts, the keys of an object, or the code
points of a text. -/
def listedViolations? : Json → Option (List Text)
  | .arr items => items.mapM fun
    | .str s => some s
    | _ => none
  | .obj entries => some (entries.map (·.1))
  | .str s => some (s.toList.map fun c => ⟨[c]⟩)
  | _ => none

/-- The text of an exception of a kind, unless it does not take these arguments. -/
def exceptionText? : ExceptionKind → List Json → Option Text
  | .missingKey, [v] => some v.displayQuoted
  | .report, [message] => some message.display
  | .report, [message, _] => some message.display
  | .report, _ => none
  | .violations, [found] =>
    (listedViolations? found).map fun texts =>
      "Invalid spreadsheet request: " ++ Text.intercalate "; " texts
  | .violations, _ => none
  | .storage, [path, reason] =>
    some ("Could not save workbook to '" ++ path.display ++ "': " ++ reason.display)
  | .storage, _ => none
  | .system, number :: reason :: rest =>
    some (if rest.length ≤ 3 then systemText number reason rest
      else plainText (number :: reason :: rest))
  | _, args => some (plainText args)

/-- An exception with arguments, unless its type does not take them. An error of the operating
system has the type of its number. -/
def ExceptionInfo.ofArguments? (type : String) (args : List Json) : Option ExceptionInfo :=
  let type := if systemAliases.contains type then systemType else type
  (exceptionText? (.ofType type) args).map fun text =>
    match args with
    | number :: _ :: rest =>
      ⟨some (if type = systemType && rest.length ≤ 3 then systemTypeOf number else type),
        some text⟩
    | _ => ⟨some type, some text⟩

example : ExceptionInfo.ofArguments? "OSError" [.int 17, .str "in use"] =
    some ⟨some "FileExistsError", some "[Errno 17] in use"⟩ := by decide +kernel

end Gridwork.Log
