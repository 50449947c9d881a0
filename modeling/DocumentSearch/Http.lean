import DocumentSearch.Json
import DocumentSearch.Url

/-!
Requests over HTTP and what comes back: a response with any status, or nothing if no response was
received.
-/

namespace DocumentSearch.Http

inductive Method where
  | get
  | post
deriving DecidableEq

def Method.name : Method → String
  | .get => "GET"
  | .post => "POST"

/-- A request; a body is sent as the compact text of its document. -/
structure Request where
  method : Method
  url : Url
  body : Option Json := none

structure Response where
  status : Nat
  body : List UInt8
deriving DecidableEq

def Response.isSuccess (response : Response) : Bool :=
  200 ≤ response.status && response.status < 300

abbrev Reply := Option Response

end DocumentSearch.Http
