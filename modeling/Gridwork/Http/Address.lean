import Gridwork.Number.Whole
import Gridwork.Text.Percent
import Gridwork.Text.Split

/-!
# Addresses

A request names its resource by an address `scheme://user@host:port/path?query#fragment`, in which
every part may be missing. An address with a scheme and a host stands for itself; any other one is
taken from the root of the service, whatever scheme or host it names. So `/a`, `a`, `///a` and
`//host/a` all lead to the path `/a`, but `//a` names a host and leads to the root.

`Address.ofText` cuts an address into its parts, and `Address.resource` gives the path of the
resource: steps `.` and `..` have been walked, and percent forms have been read twice.
-/

namespace Gridwork.Http

/-- Why an address leads to no resource. -/
inductive AddressFault where
  /-- It is not of the form of an address. -/
  | malformed
  /-- Its scheme is none that the service is called by. -/
  | unknownScheme
  /-- Its scheme asks for a connection that stays open. -/
  | stayingOpen
  /-- Its host is a number between brackets. -/
  | bracketedHost
  deriving DecidableEq, Repr

/-- The parts of an address that say where the resource is. -/
structure Address where
  scheme : List Char
  user : List Char
  host : List Char
  port : List Char
  path : List Char
  deriving DecidableEq, Repr

namespace Address

/-! ### Parts -/

/-- The largest number of characters of an address. -/
def maxLength : Nat := 65536

/-- Whether a character is a control character of ASCII. -/
def isControl (c : Char) : Bool := c.toNat < 0x20 || c.toNat == 0x7f

/-- Whether a character may stand in a scheme. -/
def isSchemeChar (c : Char) : Bool := c.isAlphanum || c == '+' || c == '-' || c == '.'

/-- The scheme in front of a colon, in lower case, and the text behind it. It begins with a letter
or is empty. -/
def splitScheme (cs : List Char) : List Char × List Char :=
  let scheme := cs.takeWhile isSchemeChar
  match cs.dropWhile isSchemeChar with
  | ':' :: rest =>
    if scheme.head?.all Char.isAlpha then (scheme.map Char.toLower, rest) else ([], cs)
  | _ => ([], cs)

/-- Whether a character ends the host and what belongs to it. -/
def endsAuthority (c : Char) : Bool := c == '/' || c == '?' || c == '#'

/-- The text between two slashes and the path, and the text behind it. -/
def splitAuthority : List Char → List Char × List Char
  | '/' :: '/' :: rest => (rest.takeWhile (!endsAuthority ·), rest.dropWhile (!endsAuthority ·))
  | cs => ([], cs)

/-- A text up to the last character of a kind, and the text behind it; nothing comes before where
there is no such character. -/
def splitLast (divides : Char → Bool) (cs : List Char) : List Char × List Char :=
  let before := (cs.reverse.dropWhile (!divides ·)).drop 1
  let behind := cs.reverse.takeWhile (!divides ·)
  (before.reverse, behind.reverse)

/-- The host, which may be a text between brackets, and the text behind it. -/
def splitHost (cs : List Char) : List Char × List Char :=
  if cs.head? = some '[' ∧ ']' ∈ cs then
    let (host, rest) := splitLast (· == ']') cs
    (host ++ [']'], rest)
  else (cs.takeWhile (· != ':'), cs.dropWhile (· != ':'))

/-- The text behind a colon that may stand in front. -/
def dropColon : List Char → List Char
  | ':' :: rest => rest
  | cs => cs

/-- Cuts an address into its parts. -/
def split (cs : List Char) : Address :=
  let (scheme, rest) := splitScheme cs
  let (authority, rest) := splitAuthority rest
  let (user, place) := splitLast (· == '@') authority
  let (host, port) := splitHost place
  ⟨scheme, user, host, dropColon port, rest.takeWhile fun c => c != '?' && c != '#'⟩

/-- Whether an address names a scheme, or something of a host. -/
def isQualified (a : Address) : Bool :=
  !(a.scheme.isEmpty && a.user.isEmpty && a.host.isEmpty && a.port.isEmpty)

/-- Whether an address stands for itself. -/
def isAbsolute (a : Address) : Bool := !a.scheme.isEmpty && !a.host.isEmpty

/-- Whether a path alone could be taken for something else. -/
def isMistakable (path : List Char) : Bool :=
  "//".toList.isPrefixOf path || path.head? == some ':'

/-- Whether the port is missing or a number. -/
def hasPort (a : Address) : Bool := a.port.isEmpty || (Whole.read? (String.ofList a.port)).isSome

/-- Reads an address. -/
def ofText (s : String) : Except AddressFault Address :=
  let a := split s.toList
  if maxLength < s.length || s.toList.any isControl then .error .malformed
  else if !a.hasPort || (!a.isQualified && isMistakable a.path) then .error .malformed
  else .ok a

/-! ### Paths -/

/-- Walks one step of a path; `walked` holds the steps so far, the last one first. Nothing lies
above the root, which an empty step stands for. -/
def walkStep (walked : List (List Char)) (step : List Char) : List (List Char) :=
  if step = ['.'] then walked
  else if step = ['.', '.'] then (if walked = [[]] then walked else walked.tail)
  else step :: walked

/-- A path in which all steps have been walked. -/
def walk (path : List Char) : List Char :=
  ['/'].intercalate ((Text.splitSlash path).foldl walkStep []).reverse

/-- A path from the root of the service. -/
def fromRoot (path : List Char) : List Char := walk ('/' :: path.dropWhile (· == '/'))

/-- The path from the root of the service, still in percent form. -/
def fullPath (a : Address) : List Char :=
  let path := if a.isQualified then walk a.path else a.path
  if a.isAbsolute then path else fromRoot path

/-- Reads percent forms. Octets that are no text leave the path as it is. -/
def readPercent (path : List Char) : List Char := (Text.Percent.decode? path).getD path

/-- The schemes that the service is called by. -/
def webSchemes : List String := ["http", "https"]

/-- The schemes of connections that stay open. -/
def openSchemes : List String := ["ws", "wss"]

/-- What keeps the service from being called at an address. -/
def fault? (a : Address) : Option AddressFault :=
  let scheme := String.ofList a.scheme
  if !a.isAbsolute then none
  else if !(webSchemes ++ openSchemes).contains scheme then some .unknownScheme
  else if a.host.head? = some '[' then some .bracketedHost
  else if openSchemes.contains scheme then some .stayingOpen
  else none

/-- The path of the resource that an address leads to. -/
def resource (s : String) : Except AddressFault String := do
  let a ← ofText s
  match a.fault? with
  | some f => throw f
  | none => return String.ofList (readPercent (readPercent a.fullPath))

example : (resource "http://host/a/../b%2563?q").toOption = some "/bc" := by decide +kernel

example : (resource "//a").toOption = some "/" ∧ (resource "///a").toOption = some "/a" := by
  decide +kernel

end Address

end Gridwork.Http
