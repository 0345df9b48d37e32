import Gridwork.Http.RateLimit
import Gridwork.Http.Route
import Gridwork.Json.Reader
import Gridwork.Service
import Gridwork.Text.Encoding

/-!
# The web service

A `Server` holds its settings, the files around it and the tally of calls. `Server.answer` answers
one request; `Server.run` answers several, one after the other. Requests have no effect on each
other but through the tally, which counts only calls of `generate`, and the stored files, which no
answer depends on unless workbooks are kept. A path with slashes too many at its end is no call: it
is answered with the path to ask at instead. A text of a request may come back in an answer; a half
of a pair in it cannot be sent, and the answer is an internal error.
-/

namespace Gridwork.Http

namespace Response

/-- The content type of JSON. -/
def jsonType := "application/json"

/-- A response in JSON. -/
def ofJson (status : Nat) (entries : Json.Entries) : Response :=
  ⟨status, jsonType, .json (.obj entries)⟩

/-- A response that says what went wrong. -/
def detail (status : Nat) (text : Text) : Response := ofJson status [("detail", .str text)]

/-- A list of texts. -/
def texts (xs : List Text) : Json := .arr (xs.map .str)

/-- There is nothing at this path. -/
def notFound : Response := detail 404 "Not Found"

/-- The resource does not answer to this method. -/
def methodNotAllowed : Response := detail 405 "Method Not Allowed"

/-- The client has called too often. -/
def tooManyCalls : Response := detail 429 "Rate limit exceeded. Please try again later."

/-- Something failed that the client is not told about. -/
def internalError : Response := detail 500 "Internal server error"

/-- A workbook was built and could not be stored. -/
def notStored : Response := detail 500 "Generated workbook could not be saved"

/-- The response to a body that is not JSON. -/
def malformed (reason : String) : Response :=
  detail 400 ("Malformed JSON body: " ++ reason : String)

/-- The response to a request with violations. -/
def invalid (found : List Violation) : Response :=
  ofJson 400 [("detail", .str "Invalid spreadsheet request"),
    ("errors", texts (found.map Violation.message))]

/-- The response to a request that cannot be built; without a wording of the error it is none of
the client's. -/
def notBuilt (e : BuildError) : Response :=
  match e.message? with
  | some message =>
    ofJson 400 [("detail", .str message), ("field", (e.field.map Json.str).getD .null)]
  | none => internalError

/-- The response to a failed generation. -/
def ofError : ServiceError → Response
  | .invalid found => invalid found
  | .failure (.build e) => notBuilt e
  | .failure _ => internalError
  | .save _ => internalError
  | .store (.storage _) => notStored
  | .store .nulInPath => internalError

/-- The response that delivers a workbook. -/
def ofGenerated (g : Generated) : Response :=
  ⟨200, Generated.mediaType, .workbook g.filename g.document⟩

/-- The result of a validation. -/
def ofCheck (found : List Violation) : Response :=
  ofJson 200 [("valid", .bool found.isEmpty), ("errors", texts (found.map Violation.message))]

/-- A page of the documentation. -/
def page : Response := ⟨200, "text/html; charset=utf-8", .page⟩

/-- The machine-readable description. -/
def description : Response := ⟨200, jsonType, .description⟩

/-- The response to a path with slashes too many. -/
def redirect (path : String) : Response := ⟨307, "", .elsewhere path⟩

/-- Whether all texts of a response can be encoded. -/
def isEncodable (r : Response) : Bool :=
  match r.payload with
  | .json value => value.isEncodable
  | _ => true

/-- A response as it is sent. -/
def sent (r : Response) : Response := if r.isEncodable then r else internalError

theorem sent_of_isEncodable {r : Response} (h : r.isEncodable = true) : r.sent = r := if_pos h

theorem sent_of_not_isEncodable {r : Response} (h : ¬ r.isEncodable = true) :
    r.sent = internalError := if_neg h

/-- Sending makes an internal error of a response at most. -/
theorem status_sent (r : Response) : r.sent.status = r.status ∨ r.sent.status = 500 := by
  by_cases h : r.isEncodable = true
  · exact Or.inl (congrArg status (sent_of_isEncodable h))
  · exact Or.inr (congrArg status (sent_of_not_isEncodable h))

/-- A response without its content. Where to ask instead stands in front of the content. -/
def headOnly (r : Response) : Response :=
  match r.payload with
  | .elsewhere _ => r
  | _ => { r with payload := .nothing }

@[simp] theorem status_headOnly (r : Response) : r.headOnly.status = r.status := by
  unfold headOnly
  split <;> rfl

end Response

/-! ### Bodies -/

/-- Reads the body of a request, or answers that it cannot be read. -/
def readBody (room : Option Nat) (body : List UInt8) : Except Response Json :=
  match Text.decodeAny body with
  | .error e => .error (.malformed e.message)
  | .ok cs =>
    match Json.parseUnmarked room cs with
    | .ok v => .ok v
    | .error (.malformed fault place) => .error (.malformed (Json.malformedMessage fault place))
    | .error .tooManyDigits => .error .internalError
    | .error .tooDeep => .error .internalError

/-! ### The server -/

/-- The name of the service. -/
def serviceName := "sheetfactory"

/-- The version of the service. -/
def serviceVersion := "0.1.0"

/-- A server. -/
structure Server where
  room : Room
  settings : Settings
  files : FileSystem FileContent
  tally : Tally

namespace Server

/-- A server that has not been called yet. -/
def start (room : Room) (settings : Settings) (files : FileSystem FileContent) : Server :=
  ⟨room, settings, files, []⟩

/-- Whether a route is open. -/
def isOpen (s : Server) (route : Route) : Bool :=
  !(route.isDocumentation && s.settings.isProduction)

/-- The route of a request, if it is open. -/
def route? (s : Server) (request : Request) : Option Route :=
  (Route.ofPath? request.path).filter s.isOpen

/-- Where a request without a route is sent: its path without the slashes at its end, if that has a
route. -/
def redirection? (s : Server) (request : Request) : Option String :=
  (Route.withoutSlashes? request.path).filter fun path => (s.route? { request with path }).isSome

/-- The health of the service. -/
def health : Response := .ofJson 200 [("status", .str "healthy"), ("service", .str serviceName)]

/-- Whether the service is ready. -/
def ready (s : Server) : Response :=
  .ofJson 200 [("status", .str "ready"), ("service", .str serviceName),
    ("version", .str serviceVersion), ("environment", .str s.settings.environment.name)]

/-- Validates a request for a workbook. -/
def validate (s : Server) (body : List UInt8) : Response :=
  match readBody s.room.reading body with
  | .error response => response
  | .ok request =>
    if request.fits s.room.checking then .ofCheck (Service.check s.settings request)
    else .internalError

/-- Generates a workbook, if the body can be read. -/
def generateFrom (s : Server) (body : List UInt8) : Server × Response :=
  match readBody s.room.reading body with
  | .error response => (s, response)
  | .ok request =>
    if request.fits s.room.generating then
      let outcome := Service.generate s.settings s.files request none
      let response :=
        match outcome.result with
        | .ok g => .ofGenerated g
        | .error e => .ofError e
      ({ s with files := outcome.files }, response)
    else (s, .internalError)

/-- Generates a workbook, unless the client has called too often. The call is counted before its
body is looked at. -/
def generate (s : Server) (body : List UInt8) : Server × Response :=
  match s.tally.hit (RateLimit.readAll s.settings.generateRateLimit) with
  | (tally, .allowed) => generateFrom { s with tally } body
  | (tally, .refused) => ({ s with tally }, .tooManyCalls)
  | (tally, .unmeasurable) => ({ s with tally }, .internalError)

/-- Answers a request at a route that answers to its method. -/
def serve (s : Server) (body : List UInt8) : Route → Server × Response
  | .health => (s, health)
  | .ready => (s, s.ready)
  | .generate => s.generate body
  | .validate => (s, s.validate body)
  | .docs => (s, .page)
  | .docsRedirect => (s, .page)
  | .reference => (s, .page)
  | .description => (s, .description)

/-- Finds the resource of a request and answers. -/
def dispatch (s : Server) (request : Request) : Server × Response :=
  match s.route? request with
  | none => (s, ((s.redirection? request).map Response.redirect).getD .notFound)
  | some route =>
    if route.accepts request.method then s.serve request.body route else (s, .methodNotAllowed)

/-- Answers a request. -/
def answer (s : Server) (request : Request) : Server × Response :=
  let (s, response) := s.dispatch request
  (s, if request.method = .head then response.sent.headOnly else response.sent)

/-- Answers requests one after the other. -/
def run (s : Server) : List Request → Server × List Response
  | [] => (s, [])
  | request :: rest =>
    let (s, response) := s.answer request
    let (s, responses) := s.run rest
    (s, response :: responses)

end Server

end Gridwork.Http
