import Gridwork.Http.Message
import Gridwork.Text.Blank
import Gridwork.Text.Split

/-!
# Routes

The service answers at eight fixed paths: two health checks, the two operations on requests for
workbooks, and four pages of documentation, which are closed in production.

`Route.ofPath?` finds the route of a path; one line feed at its end does not count. A path that only
has slashes too many at its end has no route, but `Route.withoutSlashes?` tells the path that was
meant.
-/

namespace Gridwork.Http

/-- A resource of the service. -/
inductive Route where
  | health
  | ready
  | generate
  | validate
  | docs
  | docsRedirect
  | reference
  | description
  deriving DecidableEq, Repr

namespace Route

/-- The path of a route. -/
def path : Route → String
  | .health => "/api/health"
  | .ready => "/api/health/ready"
  | .generate => "/api/spreadsheet/generate"
  | .validate => "/api/spreadsheet/validate"
  | .docs => "/api/docs"
  | .docsRedirect => "/docs/oauth2-redirect"
  | .reference => "/api/redoc"
  | .description => "/api/openapi.json"

/-- All routes. -/
def all : List Route :=
  [.health, .ready, .generate, .validate, .docs, .docsRedirect, .reference, .description]

/-- Whether a route belongs to the documentation. -/
def isDocumentation : Route → Bool
  | .docs | .docsRedirect | .reference | .description => true
  | .health | .ready | .generate | .validate => false

/-- Whether a route answers to a method. Only the documentation has answers without a body. -/
def accepts : Route → Method → Bool
  | .health, m => m == .get
  | .ready, m => m == .get
  | .generate, m => m == .post
  | .validate, m => m == .post
  | _, m => m == .get || m == .head

/-- The route of a path. -/
def ofPath? (path : String) : Option Route :=
  all.find? (·.path.toList == Text.withoutEnd '\n' path.toList)

/-- A path without the slashes at its end, if it ends with one. -/
def withoutSlashes? (path : String) : Option String :=
  if path.toList.getLast? = some '/' then
    some (String.ofList (Text.trimEndChars (· == '/') path.toList))
  else none

example : ofPath? "/api/health/" = none ∧
    (withoutSlashes? "/api/health//").bind ofPath? = some .health := by
  decide

end Route

end Gridwork.Http
