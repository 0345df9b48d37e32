import Gridwork.Filename
import Gridwork.Storage.FileTree

/-!
# The workbook store

Generated workbooks are written into one directory, which is made when it is needed. The name of a
file must be a plain one, so no file is written outside the directory; the extension is added.
-/

namespace Gridwork

/-- Why a workbook was not stored. -/
inductive StorageReason where
  | notPlainName
  | noDirectory (e : OsError)
  | notWritten (e : OsError)
  deriving DecidableEq, Repr

/-- The wording of a reason. -/
def StorageReason.message : StorageReason → String
  | .notPlainName => "not a plain file name"
  | .noDirectory e => "cannot create directory: " ++ e.message
  | .notWritten e => e.message

/-- A workbook that was not stored at a path. -/
structure StorageError where
  path : Path
  reason : StorageReason
  deriving DecidableEq, Repr

/-- The wording of a storage error. -/
def StorageError.message (e : StorageError) : String :=
  "Could not save workbook to '" ++ e.path.text ++ "': " ++ e.reason.message

/-- How storing fails: with an error to report, or because a path holds the character that ends
paths. -/
inductive StoreFailure where
  | storage (e : StorageError)
  | nulInPath
  deriving DecidableEq, Repr

namespace Store

/-- Whether a name is one of a file in a directory. -/
def isPlainName (name : String) : Bool :=
  !name.isEmpty && !name.toList.contains '/' && !name.toList.contains '\\' && name != "."
    && name != ".."

/-- Whether a path holds the character that ends paths. -/
def hasNul (p : Path) : Bool := p.parts.any fun part => part.toList.contains '\x00'

/-- Stores a workbook in a directory and returns the path of its file. -/
def save {α : Type} (fs : FileSystem α) (directory : Path) (name : String) (content : α) :
    FileSystem α × Except StoreFailure Path :=
  if !isPlainName name then (fs, .error (.storage ⟨directory.child name, .notPlainName⟩))
  else if hasNul directory then (fs, .error .nulInPath)
  else
    let path := directory.child (Filename.withExtension name)
    match fs.makeDirectories directory with
    | (fs, .error e) => (fs, .error (.storage ⟨directory, .noDirectory e⟩))
    | (fs, .ok ()) =>
      if hasNul path then (fs, .error .nulInPath)
      else
        match fs.writeFile path content with
        | .ok fs => (fs, .ok path)
        | .error e => (fs, .error (.storage ⟨path, .notWritten e⟩))

end Store

end Gridwork
