import Gridwork.Json.Value
import Gridwork.Workbook.Document

/-!
# Requests and responses

A request asks for a resource by a method and a path. A response carries a payload, or the path at
which to ask instead.
-/

namespace Gridwork.Http

/-- What a request wants of a resource. -/
inductive Method where
  | get
  | head
  | post
  | other (name : String)
  deriving DecidableEq, Repr

/-- The method of a given name, in any case. -/
def Method.ofName (name : String) : Method :=
  match name.toUpper with
  | "GET" => .get
  | "HEAD" => .head
  | "POST" => .post
  | upper => .other upper

/-- A request. -/
structure Request where
  method : Method
  path : String
  body : List UInt8
  deriving DecidableEq, Repr

/-- What a response carries. -/
inductive Payload where
  /-- Nothing, in answer to a method that asks for the head only. -/
  | nothing
  | json (value : Json)
  | workbook (filename : String) (document : Document)
  /-- A page of the documentation. -/
  | page
  /-- The machine-readable description of the service. -/
  | description
  /-- Nothing but the path to ask at instead. -/
  | elsewhere (path : String)
  deriving DecidableEq, Repr

/-- A response. Its content type is empty if there is no content. -/
structure Response where
  status : Nat
  contentType : String
  payload : Payload
  deriving DecidableEq, Repr

end Gridwork.Http
