import GatewayOperator.Backoff
import GatewayOperator.Http.Status
import GatewayOperator.Program
import GatewayOperator.Url.Basic

/-!
# HTTP exchanges

A request goes out and one of four things comes back: a response, the news that the server could not be
reached, the end of the time it was given, or the end of the operator. Before a request goes out the
operator asks itself whether it is already stopping.
-/

set_option autoImplicit false

namespace GatewayOperator.Http

/-- The method of a request. -/
inductive Method where
  | get
  | post
  | put
  | delete
  deriving DecidableEq, Repr

/-- The name of a method. -/
def Method.text : Method → String
  | .get => "GET"
  | .post => "POST"
  | .put => "PUT"
  | .delete => "DELETE"

/-- A request. -/
structure Request where
  method : Method
  url : Url
  headers : List (String × String)
  body : Option String
  timeout : Span
  deriving DecidableEq, Repr

/-- What comes of a request. -/
inductive Outcome where
  | response (status : Status) (body : List UInt8)
  | unreachable
  | timedOut
  /-- The operator began to stop while the request was pending. -/
  | stopped
  deriving DecidableEq, Repr

/-- What a client asks. -/
inductive Call where
  | isStopping
  | send (request : Request)
  deriving Repr

/-- What it is answered. -/
abbrev Call.Answer : Call → Type
  | .isStopping => Bool
  | .send _ => Outcome

end GatewayOperator.Http
