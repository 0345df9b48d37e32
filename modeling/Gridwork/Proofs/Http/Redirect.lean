import Gridwork.Http.Client

/-!
# Being sent elsewhere

A path with slashes too many has no route, and who asks at it is sent to the path that was meant.
Sending leaves the server as it was, and at the other path there is a route
(`Server.answer_of_elsewhere`). Routes do not send on (`Server.isFinal_serve`), so a client that
goes where it is sent has its answer (`Server.isFinal_ask`).
-/

namespace Gridwork.Http

/-! ### Responses -/

namespace Response

/-- A response that sends nowhere. -/
def IsFinal (response : Response) : Prop := ∀ path, response.payload ≠ .elsewhere path

theorem isFinal_ofJson (status : Nat) (entries : Json.Entries) : (ofJson status entries).IsFinal :=
  fun _ h => by cases h

theorem isFinal_ofError (e : ServiceError) : (ofError e).IsFinal := by
  cases e with
  | invalid found => exact isFinal_ofJson _ _
  | save e => exact isFinal_ofJson _ _
  | store f => cases f <;> exact isFinal_ofJson _ _
  | failure f =>
    cases f with
    | build b =>
      have hresponse : ofError (.failure (.build b)) = notBuilt b := rfl
      rw [hresponse, notBuilt]
      cases b.message? <;> exact isFinal_ofJson _ _
    | rowOutOfRange => exact isFinal_ofJson _ _
    | untitled t => exact isFinal_ofJson _ _

variable {response : Response}

theorem IsFinal.sent (h : response.IsFinal) : response.sent.IsFinal := by
  unfold Response.sent
  split
  · exact h
  · exact isFinal_ofJson _ _

theorem IsFinal.headOnly (h : response.IsFinal) : response.headOnly.IsFinal := by
  intro path
  unfold Response.headOnly
  split
  · exact h path
  · exact fun hpayload => by cases hpayload

end Response

/-- A body that cannot be read is answered for that. -/
theorem isFinal_of_readBody {bound : Option Nat} {body : List UInt8} {response : Response}
    (h : readBody bound body = .error response) : response.IsFinal := by
  unfold readBody at h
  split at h
  · exact Except.error.inj h ▸ Response.isFinal_ofJson _ _
  · split at h
    · cases h
    all_goals exact Except.error.inj h ▸ Response.isFinal_ofJson _ _

/-! ### The server -/

namespace Server

variable {server : Server} {request : Request}

theorem isFinal_generateFrom (server : Server) (body : List UInt8) :
    (server.generateFrom body).2.IsFinal := by
  unfold generateFrom
  split
  · next hread => exact isFinal_of_readBody hread
  · split
    · dsimp only
      split
      · exact fun _ h => by cases h
      · exact Response.isFinal_ofError _
    · exact Response.isFinal_ofJson _ _

/-- Routes do not send on. -/
theorem isFinal_serve (server : Server) (body : List UInt8) (route : Route) :
    (server.serve body route).2.IsFinal := by
  cases route with
  | generate =>
    dsimp only [serve, generate]
    split
    · exact isFinal_generateFrom _ _
    · exact Response.isFinal_ofJson _ _
    · exact Response.isFinal_ofJson _ _
  | validate =>
    dsimp only [serve, validate]
    split
    · next hread => exact isFinal_of_readBody hread
    · split <;> exact Response.isFinal_ofJson _ _
  | health | ready => exact Response.isFinal_ofJson _ _
  | docs | docsRedirect | reference | description => exact fun _ h => by cases h

/-- What is sent of a response that is final is final. -/
theorem isFinal_answer (h : (server.dispatch request).2.IsFinal) :
    (server.answer request).2.IsFinal := by
  dsimp only [answer]
  split
  · exact h.sent.headOnly
  · exact h.sent

theorem isFinal_answer_of_route (h : (server.route? request).isSome = true) :
    (server.answer request).2.IsFinal := by
  obtain ⟨route, hroute⟩ := Option.isSome_iff_exists.mp h
  refine isFinal_answer ?_
  rw [dispatch, hroute]
  dsimp only
  split
  · exact isFinal_serve _ _ _
  · exact Response.isFinal_ofJson _ _

/-- **Who is sent elsewhere** left no trace, and finds something there. -/
theorem answer_of_elsewhere {path : String}
    (h : (server.answer request).2.payload = .elsewhere path) :
    (server.answer request).1 = server ∧
      (server.route? { request with path }).isSome = true := by
  cases hroute : server.route? request with
  | some route => exact absurd h (isFinal_answer_of_route (by rw [hroute]; rfl) path)
  | none =>
    have hdispatch : server.dispatch request
        = (server, ((server.redirection? request).map .redirect).getD .notFound) := by
      rw [dispatch, hroute]
    refine ⟨by rw [answer, hdispatch], ?_⟩
    cases hmeant : server.redirection? request with
    | none =>
      refine absurd h (isFinal_answer ?_ path)
      rw [hdispatch, hmeant]
      exact Response.isFinal_ofJson _ _
    | some meant =>
      -- the response names the path that was found
      have hsome := (Option.filter_eq_some_iff.mp hmeant).2
      have hpayload : (server.answer request).2.payload = .elsewhere meant := by
        rw [answer, hdispatch, hmeant]
        dsimp only
        split <;> rfl
      obtain rfl := Payload.elsewhere.inj (hpayload.symm.trans h)
      exact hsome

/-- **Being sent on once is enough.** -/
theorem isFinal_ask (server : Server) (request : Request) : (server.ask request).2.IsFinal := by
  dsimp only [ask]
  split
  · next path hpayload =>
    obtain ⟨hsame, hroute⟩ := answer_of_elsewhere hpayload
    rw [hsame]
    exact isFinal_answer_of_route hroute
  · next hfinal => exact hfinal

end Server

end Gridwork.Http
