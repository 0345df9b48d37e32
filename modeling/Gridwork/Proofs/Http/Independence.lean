import Gridwork.Proofs.Http.RateLimit
import Gridwork.Proofs.Service.Answers

/-!
# Requests do not influence each other

As long as no workbooks are kept, all that a request leaves behind is that it may have been counted.
`Server.run_independent` says so of every series of requests to one server, whatever they are and
however they end: a call of the generate endpoint is refused for its number exactly if it comes
after as many calls as are allowed, nothing else is ever refused so or counted, and every other
response is the one that the request would have got alone.

Most steps of answering look at nothing that changes (`Server.Steady`). The exception is
counting a call, and `Server.Counted` is the invariant that ties the counter to the calls so far.
-/

namespace Gridwork.Http

/-! ### Steps that look at the settings only -/

/-- A step that leaves the server as it is, and whose response depends on the settings and on the
room that there is only. It does not say that the client has called too often. -/
def Server.Steady (room : Room) (settings : Settings) (step : Server → Server × Response) : Prop :=
  ∃ response : Response, response.status ≠ 429 ∧
    ∀ files tally, step ⟨room, settings, files, tally⟩ = (⟨room, settings, files, tally⟩, response)

section Steady

variable {room : Room} {settings : Settings} {request : Request} {body : List UInt8}

/-- An internal error is no refusal of a call either. -/
theorem Server.Steady.sent {step : Server → Server × Response} (h : Steady room settings step) :
    Steady room settings fun server => ((step server).1, (step server).2.sent) := by
  obtain ⟨response, hstatus, hstep⟩ := h
  refine ⟨response.sent, ?_, fun files tally => ?_⟩
  · have hsent := response.status_sent
    omega
  · dsimp only
    rw [hstep]

/-- A body that cannot be read is answered for that. -/
theorem status_of_readBody {bound : Option Nat} {response : Response}
    (h : readBody bound body = .error response) :
    response.status = 400 ∨ response.status = 500 := by
  unfold readBody at h
  split at h
  · obtain rfl := Except.error.inj h
    exact Or.inl rfl
  · split at h
    · cases h
    · obtain rfl := Except.error.inj h
      exact Or.inl rfl
    · obtain rfl := Except.error.inj h
      exact Or.inr rfl
    · obtain rfl := Except.error.inj h
      exact Or.inr rfl

/-- What comes of a generation. -/
theorem status_ofResult_cases (result : Except ServiceError Generated) :
    (Response.ofResult result).status = 200 ∨ (Response.ofResult result).status = 400 ∨
      (Response.ofResult result).status = 500 := by
  obtain ⟨hanswered, hnot⟩ := Response.status_ofResult result
  by_cases h : Service.Answered result
  · exact (hanswered h).imp_right Or.inl
  · exact Or.inr (Or.inr (hnot h))

/-- Generating leaves nothing behind where nothing is kept. -/
theorem Server.steady_generateFrom (room : Room) (hoff : settings.persistGenerated = false)
    (body : List UInt8) : Steady room settings (·.generateFrom body) := by
  cases hread : readBody room.reading body with
  | error response =>
    refine ⟨response, ?_, fun files tally => ?_⟩
    · have hstatus := status_of_readBody hread
      omega
    · dsimp only [generateFrom]
      rw [hread]
  | ok request =>
    have hkeeps : Service.keeps settings none = false := hoff
    by_cases hfits : request.fits room.generating = true
    · refine ⟨.ofResult ((Service.prepare settings request).outcome.map
        fun d => ⟨Filename.derive request, d, none⟩), ?_, fun files tally => ?_⟩
      · have hstatus := status_ofResult_cases ((Service.prepare settings request).outcome.map
          fun d => ⟨Filename.derive request, d, none⟩)
        omega
      · have hanswer := @generateFrom_of_read ⟨room, settings, files, tally⟩ body _ hread hfits
        dsimp only at hanswer ⊢
        rw [hanswer, Service.files_of_not_kept hkeeps, Service.generate_of_not_kept hkeeps]
    · refine ⟨.internalError, by decide, fun files tally => ?_⟩
      dsimp only [generateFrom]
      rw [hread]
      dsimp only
      rw [if_neg hfits]

/-- Validating looks at the body and at the settings. -/
theorem Server.steady_validate (room : Room) (settings : Settings) (body : List UInt8) :
    Steady room settings fun server => (server, server.validate body) := by
  refine ⟨(start room settings .empty).validate body, ?_, fun files tally => rfl⟩
  rw [validate, start]
  cases hread : readBody room.reading body with
  | error response =>
    have hstatus := status_of_readBody hread
    dsimp only
    omega
  | ok request =>
    have hstatus : (Response.ofCheck (Service.check settings request)).status = 200 := rfl
    have hbroken : Response.internalError.status = 500 := rfl
    dsimp only
    split <;> omega

/-- All routes but one only answer. -/
theorem Server.steady_serve (room : Room) (settings : Settings) {route : Route}
    (h : route ≠ .generate) (body : List UInt8) : Steady room settings (·.serve body route) := by
  cases route with
  | generate => exact absurd rfl h
  | validate => exact steady_validate room settings body
  | health => exact ⟨health, by decide, fun _ _ => rfl⟩
  | ready =>
    -- the environment that is shown is one of the settings
    have hstatus : (start room settings .empty).ready.status = 200 := rfl
    exact ⟨(start room settings .empty).ready, by omega, fun _ _ => rfl⟩
  | docs | docsRedirect | reference => exact ⟨.page, by decide, fun _ _ => rfl⟩
  | description => exact ⟨.description, by decide, fun _ _ => rfl⟩

/-- Every request that is no call of the generate endpoint. -/
theorem Server.steady_dispatch (room : Room) (settings : Settings) (h : ¬ request.IsCall) :
    Steady room settings (·.dispatch request) := by
  -- the route is found without looking at files or calls
  have hroute : ∀ files tally, (⟨room, settings, files, tally⟩ : Server).route? request
      = (start room settings .empty).route? request := fun _ _ => rfl
  cases hfound : (start room settings .empty).route? request with
  | none =>
    -- there is nothing, or there is something at the path without its slashes
    refine ⟨(((start room settings .empty).redirection? request).map .redirect).getD .notFound, ?_,
      fun files tally => ?_⟩
    · cases (start room settings .empty).redirection? request with
      | none => decide
      | some path => exact (by decide : (307 : Nat) ≠ 429)
    · dsimp only [dispatch]
      rw [hroute, hfound]
      rfl
  | some route =>
    by_cases haccepts : route.accepts request.method = true
    · -- a request that this route answers to would be a call if the route were that endpoint
      have hother : route ≠ .generate := by
        rintro rfl
        obtain ⟨hpath, -⟩ := Option.filter_eq_some_iff.mp hfound
        exact h ⟨hpath, beq_iff_eq.mp haccepts⟩
      obtain ⟨response, hstatus, hserved⟩ := steady_serve room settings hother request.body
      refine ⟨response, hstatus, fun files tally => ?_⟩
      rw [← hserved files tally]
      dsimp only [dispatch]
      rw [hroute, hfound]
      dsimp only
      rw [if_pos haccepts]
    · refine ⟨.methodNotAllowed, by decide, fun files tally => ?_⟩
      dsimp only [dispatch]
      rw [hroute, hfound]
      dsimp only
      rw [if_neg haccepts]

/-- Leaving out the payload changes nothing about that. -/
theorem Server.steady_answer (room : Room) (settings : Settings) (h : ¬ request.IsCall) :
    Steady room settings (·.answer request) := by
  obtain ⟨response, hstatus, hdispatch⟩ := (steady_dispatch room settings h).sent
  refine ⟨if request.method = .head then response.headOnly else response, ?_, fun files tally => ?_⟩
  · split
    · rwa [Response.status_headOnly]
    · exact hstatus
  · obtain ⟨hserver, hresponse⟩ := Prod.mk.inj (hdispatch files tally)
    dsimp only [answer]
    rw [hserver, hresponse]

end Steady

/-! ### One request -/

/-- A server that is as it was begun but for the calls that it has counted. -/
structure Server.Counted (room : Room) (settings : Settings) (files : FileSystem FileContent)
    (limit : RateLimit) (calls : Nat) (server : Server) : Prop where
  room : server.room = room
  settings : server.settings = settings
  files : server.files = files
  calls : server.tally.count limit = calls

/-- What a request is answered, if so many calls were made up to and with it. -/
structure Replies (room : Room) (settings : Settings) (n calls : Nat) (request : Request)
    (response : Response) : Prop where
  /-- Only a call is refused for its number, and that if it is beyond what is allowed. -/
  refused_iff : response.status = 429 ↔ request.IsCall ∧ n < calls
  /-- Whatever is not refused so is answered as by a server that has not been called yet. -/
  same : response.status ≠ 429 →
    ∀ files, response = ((Server.start room settings files).answer request).2

/-- The calls that a request counts for. -/
def Request.calls (request : Request) : Nat := if request.IsCall then 1 else 0

namespace Server

variable {room : Room} {settings : Settings} {files : FileSystem FileContent} {limit : RateLimit}

theorem counted_start (room : Room) (settings : Settings) (files : FileSystem FileContent)
    (limit : RateLimit) : Counted room settings files limit 0 (start room settings files) :=
  ⟨rfl, rfl, rfl, rfl⟩

/-- Requests that are no calls are not counted. -/
theorem Counted.answer_of_not_isCall {calls : Nat} {server : Server} {request : Request}
    (h : Counted room settings files limit calls server) (hcall : ¬ request.IsCall) :
    Counted room settings files limit calls (server.answer request).1 ∧
      Replies room settings limit.amount calls request (server.answer request).2 := by
  obtain ⟨rfl, rfl, rfl, rfl⟩ := h
  obtain ⟨response, hstatus, hsteady⟩ := steady_answer server.room server.settings hcall
  dsimp only at hsteady
  rw [hsteady]
  refine ⟨⟨rfl, rfl, rfl, rfl⟩, iff_of_false hstatus fun h => hcall h.1, fun _ files' => ?_⟩
  rw [start, hsteady]

section Limit

variable (hread : RateLimit.readAll settings.generateRateLimit = [limit])
  (hmeasurable : limit.isMeasurable = true) {calls : Nat} {server : Server} {request : Request}
  (h : Counted room settings files limit calls server)
include hread hmeasurable h

/-- A call within the limit is answered from its body. -/
theorem answer_of_allowed (hcall : request.IsCall) (hwithin : calls < limit.amount) :
    let outcome := generateFrom ⟨room, settings, files, (server.tally.hit [limit]).1⟩ request.body
    server.answer request = (outcome.1, outcome.2.sent) := by
  obtain ⟨rfl, rfl, rfl, rfl⟩ := h
  have hallowed := Tally.hit_allowed hmeasurable hwithin
  rw [answer_of_isCall hcall, generate, hread]
  generalize server.tally.hit [limit] = hit at hallowed
  obtain ⟨tally, verdict⟩ := hit
  obtain rfl : verdict = .allowed := hallowed
  rfl

/-- A call beyond the limit is refused. -/
theorem answer_of_refused (hcall : request.IsCall) (hbeyond : limit.amount ≤ calls) :
    server.answer request
      = (⟨room, settings, files, (server.tally.hit [limit]).1⟩, .tooManyCalls) := by
  obtain ⟨rfl, rfl, rfl, rfl⟩ := h
  have hrefused := Tally.hit_refused hmeasurable hbeyond
  rw [answer_of_isCall hcall, generate, hread]
  generalize server.tally.hit [limit] = hit at hrefused
  obtain ⟨tally, verdict⟩ := hit
  obtain rfl : verdict = .refused := hrefused
  rfl

/-- A call is counted whatever becomes of it. -/
theorem Counted.answer_of_isCall (hoff : settings.persistGenerated = false)
    (hcall : request.IsCall) :
    Counted room settings files limit (calls + 1) (server.answer request).1 ∧
      Replies room settings limit.amount (calls + 1) request (server.answer request).2 := by
  have hcount : (server.tally.hit [limit]).1.count limit = calls + 1 := by
    rw [Tally.count_hit hmeasurable, h.calls]
  by_cases hwithin : calls < limit.amount
  · obtain ⟨response, hstatus, hsteady⟩ := (steady_generateFrom room hoff request.body).sent
    dsimp only at hsteady
    rw [answer_of_allowed hread hmeasurable h hcall hwithin, hsteady]
    refine ⟨⟨rfl, rfl, rfl, hcount⟩, iff_of_false hstatus ?_, fun _ files' => ?_⟩
    · rintro ⟨-, hbeyond⟩
      omega
    · -- if this call is within the limit, then so is the first
      have hfirst : 0 < limit.amount := by omega
      have hstart := counted_start room settings files' limit
      rw [answer_of_allowed hread hmeasurable hstart hcall hfirst, hsteady]
  · have hbeyond : limit.amount ≤ calls := by omega
    rw [answer_of_refused hread hmeasurable h hcall hbeyond]
    refine ⟨⟨rfl, rfl, rfl, hcount⟩, iff_of_true rfl ⟨hcall, ?_⟩, fun hne => absurd rfl hne⟩
    omega

/-- **One request** is counted if it is a call, and answered by its number and by itself. -/
theorem Counted.answer (hoff : settings.persistGenerated = false) (request : Request) :
    Counted room settings files limit (calls + request.calls) (server.answer request).1 ∧
      Replies room settings limit.amount (calls + request.calls) request
        (server.answer request).2 := by
  by_cases hcall : request.IsCall
  · rw [Request.calls, if_pos hcall]
    exact h.answer_of_isCall hread hmeasurable hoff hcall
  · rw [Request.calls, if_neg hcall]
    exact h.answer_of_not_isCall hcall

end Limit

/-! ### A series of requests -/

theorem run_cons (server : Server) (request : Request) (rest : List Request) :
    server.run (request :: rest)
      = (((server.answer request).1.run rest).1,
          (server.answer request).2 :: ((server.answer request).1.run rest).2) := rfl

/-- The calls among some requests, the first one apart. -/
theorem countP_isCall_cons (request : Request) (rest : List Request) :
    (request :: rest).countP (Request.IsCall ·)
      = request.calls + rest.countP (Request.IsCall ·) := by
  rw [List.countP_cons, Nat.add_comm]
  by_cases hcall : request.IsCall
  · simp [Request.calls, hcall]
  · simp [Request.calls, hcall]

/-- A series of requests goes on from the calls that were counted before it. -/
theorem Counted.run (hoff : settings.persistGenerated = false)
    (hread : RateLimit.readAll settings.generateRateLimit = [limit])
    (hmeasurable : limit.isMeasurable = true) {calls : Nat} {server : Server}
    (h : Counted room settings files limit calls server) (requests : List Request) :
    Counted room settings files limit (calls + requests.countP (Request.IsCall ·))
        (server.run requests).1 ∧
      (server.run requests).2.length = requests.length ∧
      ∀ i request, requests[i]? = some request →
        ∃ response, (server.run requests).2[i]? = some response ∧
          Replies room settings limit.amount
            (calls + (requests.take (i + 1)).countP (Request.IsCall ·)) request response := by
  -- on the requests, from the server that the first of them leaves behind
  induction requests generalizing server calls with
  | nil => exact ⟨h, rfl, fun i request hi => by simp at hi⟩
  | cons first rest ih =>
    obtain ⟨hcounted, hreplies⟩ := h.answer hread hmeasurable hoff first
    obtain ⟨hleft, hlength, hrest⟩ := ih hcounted
    -- the calls up to a later request are those of the first one and those behind it
    rw [run_cons, countP_isCall_cons, ← Nat.add_assoc]
    refine ⟨hleft, congrArg (· + 1) hlength, fun i request hi => ?_⟩
    rw [List.take_succ_cons, countP_isCall_cons, ← Nat.add_assoc]
    cases i with
    | zero =>
      obtain rfl : first = request := Option.some.inj hi
      exact ⟨_, rfl, hreplies⟩
    | succ i => exact hrest i request hi

end Server

/-- What a series of requests to a server, and the responses to them, have to do with each other. -/
structure Independent (room : Room) (settings : Settings) (files : FileSystem FileContent)
    (n : Nat) (requests : List Request) (ended : Server × List Response) : Prop where
  /-- Nothing but the number of calls is left behind. -/
  room_kept : ended.1.room = room
  settings_kept : ended.1.settings = settings
  files_kept : ended.1.files = files
  /-- Every request has its response, which depends on the calls before it only in that it may be
  one too many. -/
  length : ended.2.length = requests.length
  replies : ∀ i request, requests[i]? = some request →
    ∃ response, ended.2[i]? = some response ∧
      Replies room settings n ((requests.take (i + 1)).countP (Request.IsCall ·)) request response

/-- **Requests do not influence each other** but by the number of calls, as long as nothing is
kept. -/
theorem Server.run_independent {settings : Settings} {n : Nat}
    (hoff : settings.persistGenerated = false)
    (hlimit : RateLimit.Allows settings.generateRateLimit n) (room : Room)
    (files : FileSystem FileContent) (requests : List Request) :
    Independent room settings files n requests ((start room settings files).run requests) := by
  obtain ⟨limit, hread, rfl, hmeasurable⟩ := hlimit
  obtain ⟨hleft, hlength, hreplies⟩ :=
    (counted_start room settings files limit).run hoff hread hmeasurable requests
  simp only [Nat.zero_add] at hreplies
  exact ⟨hleft.room, hleft.settings, hleft.files, hlength, hreplies⟩

/-- Settings that allow two calls an hour. -/
def hourlySettings : Settings := { Settings.defaults with generateRateLimit := "2/hour" }

/-- Three calls, of which the first has no body, among other requests. -/
def mixedRequests : List Request :=
  [⟨.post, "/api/spreadsheet/generate", []⟩, ⟨.get, "/api/spreadsheet/generate", []⟩,
    ⟨.post, "/api/spreadsheet/generate/", zerosBody 2⟩,
    ⟨.post, "/api/spreadsheet/generate", zerosBody 2⟩,
    ⟨.post, "/api/spreadsheet/generate", zerosBody 2⟩, ⟨.get, "/api/health", []⟩]

/-- A call that could not be read counts; a request by another method does not, nor does one that is
sent elsewhere. -/
theorem Server.run_independent_hourly :
    hourlySettings.persistGenerated = false ∧
      RateLimit.Allows hourlySettings.generateRateLimit 2 ∧
      ((start .unbounded hourlySettings .empty).run mixedRequests).2.map (·.status)
        = [400, 405, 307, 200, 429, 200] ∧
      Independent .unbounded hourlySettings .empty 2 mixedRequests
        ((start .unbounded hourlySettings .empty).run mixedRequests) := by
  have hoff : hourlySettings.persistGenerated = false := rfl
  have htext : hourlySettings.generateRateLimit = toString 2 ++ "/" ++ TimeUnit.hour.name := by
    decide
  have hlimit : RateLimit.Allows hourlySettings.generateRateLimit 2 := by
    rw [htext]
    exact RateLimit.allows_perUnit .hour (by decide)
  refine ⟨hoff, hlimit, ?_, run_independent hoff hlimit .unbounded .empty mixedRequests⟩
  decide +kernel

end Gridwork.Http
