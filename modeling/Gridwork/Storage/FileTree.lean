import Gridwork.Storage.Path
import Gridwork.Text.Quoted
import Gridwork.Text.Utf8

/-!
# File systems

A file system is a tree of directories and files and a working directory in it. There are no links,
so `..` leads to the directory above. `makeDirectory`, `makeDirectories`, `writeFile` and `readFile`
do what an operating system does, or fail with its error; what exists is never removed, and a
failing operation on a file changes nothing.

`α` is the type of file contents.
-/

namespace Gridwork

/-- An error of the operating system. -/
inductive Errno where
  | notFound
  | exists
  | notDirectory
  | isDirectory
  | nameTooLong
  deriving DecidableEq, Repr

/-- The number of an error. -/
def Errno.number : Errno → Nat
  | .notFound => 2
  | .exists => 17
  | .notDirectory => 20
  | .isDirectory => 21
  | .nameTooLong => 36

/-- The wording of an error. -/
def Errno.text : Errno → String
  | .notFound => "No such file or directory"
  | .exists => "File exists"
  | .notDirectory => "Not a directory"
  | .isDirectory => "Is a directory"
  | .nameTooLong => "File name too long"

/-- An error and the path that it is about. -/
structure OsError where
  errno : Errno
  path : String
  deriving DecidableEq, Repr

/-- The report of an error. -/
def OsError.message (e : OsError) : String :=
  "[Errno " ++ toString e.errno.number ++ "] " ++ e.errno.text ++ ": " ++ Text.quoted e.path

/-- A file or a directory. -/
inductive Node (α : Type) where
  | file (content : α)
  | directory (entries : List (String × Node α))
  deriving Repr

namespace Node

variable {α : Type}

instance : Inhabited (Node α) := ⟨.directory []⟩

/-- The node that a series of names leads to. -/
def get? : Node α → List String → Option (Node α)
  | node, [] => some node
  | .file _, _ :: _ => none
  | .directory entries, name :: rest =>
    match entries.lookup name with
    | some node => get? node rest
    | none => none

/-- Puts an entry into a list of entries: an old one of that name is replaced in its place, a new
one comes last. -/
def putEntry (name : String) (node : Node α) : List (String × Node α) → List (String × Node α)
  | [] => [(name, node)]
  | (n, old) :: rest =>
    if n = name then (n, node) :: rest else (n, old) :: putEntry name node rest

/-- Puts a node under a name into the directory that a series of names leads to. Where the names
lead to no directory nothing happens. -/
def putAt (name : String) (new : Node α) : List String → Node α → Node α
  | _, .file content => .file content
  | [], .directory entries => .directory (putEntry name new entries)
  | step :: rest, .directory entries =>
    match entries.lookup step with
    | some node => .directory (putEntry step (putAt name new rest node) entries)
    | none => .directory entries

/-- Whether a node is a directory. -/
def isDirectory : Node α → Bool
  | .directory _ => true
  | .file _ => false

mutual

/-- The paths of all nodes below a node; those of directories end in a slash. -/
def listing (above : String) : Node α → List String
  | .file _ => []
  | .directory entries => entryListing above entries

/-- The paths of entries and of all nodes below them. -/
def entryListing (above : String) : List (String × Node α) → List String
  | [] => []
  | (name, .file _) :: rest => (above ++ name) :: entryListing above rest
  | (name, .directory entries) :: rest =>
    (above ++ name ++ "/") :: (listing (above ++ name ++ "/") (.directory entries)
      ++ entryListing above rest)

end

end Node

/-- A tree of files and the working directory in it. -/
structure FileSystem (α : Type) where
  root : Node α
  cwd : List String

namespace FileSystem

variable {α : Type}

/-- An empty working directory. -/
def empty : FileSystem α := ⟨.directory [("work", .directory [])], ["work"]⟩

/-- The largest number of octets of a name. -/
def maxName : Nat := 255

/-- The largest number of octets of a path, with the one that ends it. -/
def maxPath : Nat := 4096

/-- The number of octets of a text. -/
def octets (s : String) : Nat := (Text.Utf8.encode s.toList).length

/-- The place that an anchor stands for. -/
def origin (fs : FileSystem α) : Anchor → List String
  | .here => fs.cwd
  | _ => []

/-- Where the parts of a path lead from a directory. A part that is empty or `.` leads nowhere, but
only a directory has even that. -/
def walk (root : Node α) (place : List String) : List String → Except Errno (List String)
  | [] => .ok place
  | part :: rest =>
    match root.get? place with
    | none => .error .notFound
    | some (.file _) => .error .notDirectory
    | some (.directory entries) =>
      if part = "" ∨ part = "." then walk root place rest
      else if part = ".." then walk root place.dropLast rest
      else if maxName < octets part then .error .nameTooLong
      else
        match entries.lookup part with
        | none => .error .notFound
        | some _ => walk root (place ++ [part]) rest

/-- Where a path leads, if something is there. -/
def locate (fs : FileSystem α) (p : Path) : Except Errno (List String) :=
  if maxPath ≤ octets p.text then .error .nameTooLong
  else walk fs.root (fs.origin p.anchor) p.parts

/-- Whether a path leads to a directory. -/
def isDirectory (fs : FileSystem α) (p : Path) : Bool :=
  match fs.locate p with
  | .ok place => ((fs.root.get? place).map Node.isDirectory).getD false
  | .error _ => false

/-- The directory in which the last part of a path would be made, and that part; nothing if the path
has no last part or only leads upwards with it. -/
def slot (fs : FileSystem α) (p : Path) : Except Errno (List String × Option String) := do
  if maxPath ≤ octets p.text then throw .nameTooLong
  let place ← walk fs.root (fs.origin p.anchor) p.parts.dropLast
  match p.parts.getLast? with
  | none => return (place, none)
  | some name =>
    match fs.root.get? place with
    | some (.directory _) =>
      if name = ".." then return (place, none)
      else if maxName < octets name then throw .nameTooLong
      else return (place, some name)
    | some (.file _) => throw .notDirectory
    | none => throw .notFound

/-- Makes a directory, whose parent must exist. -/
def makeDirectory (fs : FileSystem α) (p : Path) : Except Errno (FileSystem α) := do
  match ← fs.slot p with
  | (_, none) => throw .exists
  | (place, some name) =>
    if (fs.root.get? (place ++ [name])).isSome then throw .exists
    return { fs with root := Node.putAt name (.directory []) place fs.root }

/-- Takes for success that a directory could not be made because it is there. -/
def settle (fs : FileSystem α) (p : Path) (e : Errno) : FileSystem α × Except OsError Unit :=
  if e ≠ .notFound ∧ fs.isDirectory p then (fs, .ok ()) else (fs, .error ⟨e, p.text⟩)

/-- Makes a directory together with the missing ones on the way to it; `depth` bounds their number.
Directories made before a failure stay. -/
def makeDirectoriesWithin (fs : FileSystem α) (depth : Nat) (p : Path) :
    FileSystem α × Except OsError Unit :=
  match fs.makeDirectory p with
  | .ok fs => (fs, .ok ())
  | .error .notFound =>
    match depth with
    | 0 => (fs, .error ⟨.notFound, p.text⟩)
    | depth + 1 =>
      match makeDirectoriesWithin fs depth p.parent with
      | (fs, .error e) => (fs, .error e)
      | (fs, .ok ()) =>
        match fs.makeDirectory p with
        | .ok fs => (fs, .ok ())
        | .error e => fs.settle p e
  | .error e => fs.settle p e

/-- Makes a directory together with the missing ones on the way to it. -/
def makeDirectories (fs : FileSystem α) (p : Path) : FileSystem α × Except OsError Unit :=
  fs.makeDirectoriesWithin p.parts.length p

/-- Writes a file, in place of the one that may be there. -/
def writeFile (fs : FileSystem α) (p : Path) (content : α) :
    Except OsError (FileSystem α) :=
  match fs.slot p with
  | .error e => .error ⟨e, p.text⟩
  | .ok (_, none) => .error ⟨.isDirectory, p.text⟩
  | .ok (place, some name) =>
    match fs.root.get? (place ++ [name]) with
    | some (.directory _) => .error ⟨.isDirectory, p.text⟩
    | _ => .ok { fs with root := Node.putAt name (.file content) place fs.root }

/-- Reads the file that a text names. Unlike in a path, a slash at the end asks for a directory. -/
def readFile (fs : FileSystem α) (name : String) : Except OsError α :=
  let pieces := (Text.splitSlash name.toList).map String.ofList
  let place :=
    if name.isEmpty then .error .notFound
    else if maxPath ≤ octets name then .error .nameTooLong
    else walk fs.root (fs.origin (Path.anchorOf name.toList)) pieces
  match place with
  | .error e => .error ⟨e, name⟩
  | .ok place =>
    match fs.root.get? place with
    | some (.file content) => .ok content
    | some (.directory _) => .error ⟨.isDirectory, name⟩
    | none => .error ⟨.notFound, name⟩

/-- The paths of all files and directories in the working directory. -/
def listing (fs : FileSystem α) : List String :=
  match fs.root.get? fs.cwd with
  | some node => node.listing ""
  | none => []

end FileSystem

end Gridwork
