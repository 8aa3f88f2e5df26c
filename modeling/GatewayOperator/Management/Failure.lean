import GatewayOperator.Http.Status

/-!
# Failures of the management API

What can go wrong between the operator and an API management backend, and whether trying again can
help. Failures of connectivity, time and availability are recoverable; refused credentials, forbidden
access and malformed requests are not, until the definition or its context changes.
-/

set_option autoImplicit false

namespace GatewayOperator.Management

/-- A failure talking to the management API. -/
inductive Failure where
  /-- The backend answered with a status that is no success. -/
  | status (status : Http.Status) (message : String)
  /-- The backend could not be reached. -/
  | transport (message : String)
  /-- No answer came in time. -/
  | timeout
  /-- The answer could not be read. -/
  | decode (message : String)
  /-- The payload could not be written. -/
  | encode (message : String)
  /-- No request can be built from the URL or the credentials. -/
  | invalidUrl (message : String)
  /-- The operator is stopping. -/
  | cancelled
  deriving DecidableEq, Repr

/-- Whether a failure is worth another attempt without a change elsewhere. -/
inductive Severity where
  | recoverable
  | nonRecoverable
  deriving DecidableEq, Repr

/-- The severity of a status. A missing record is recoverable: it went away between lookup and write,
and the next pass starts over. -/
def Severity.ofStatus (status : Http.Status) : Severity :=
  let n := status.code
  if n = 404 ∨ n = 408 ∨ n = 409 ∨ n = 425 ∨ n = 429 then .recoverable
  else if 400 ≤ n ∧ n ≤ 499 then .nonRecoverable
  else .recoverable

namespace Failure

/-- The severity of a failure. -/
def severity : Failure → Severity
  | .status s _ => Severity.ofStatus s
  | .transport _ => .recoverable
  | .timeout => .recoverable
  | .decode _ => .recoverable
  | .encode _ => .nonRecoverable
  | .invalidUrl _ => .nonRecoverable
  | .cancelled => .recoverable

/-- The kind of a failure, as the metrics count it. -/
def label : Failure → String
  | .status s _ => if s.isServerError then "ServerError" else "ClientError"
  | .transport _ => "Transport"
  | .timeout => "Timeout"
  | .decode _ => "Decode"
  | .encode _ => "Encode"
  | .invalidUrl _ => "InvalidUrl"
  | .cancelled => "Cancelled"

/-- The wording of a failure. -/
def message : Failure → String
  | .status s text => "Management API responded with " ++ s.text ++ ": " ++ text
  | .transport text => "Unable to reach the management API: " ++ text
  | .timeout => "Management API request timed out"
  | .decode text => "Invalid management API response: " ++ text
  | .encode text => "Unable to encode the API payload: " ++ text
  | .invalidUrl text => "Invalid management API URL: " ++ text
  | .cancelled => "Management API request was cancelled by operator shutdown"

end Failure

end GatewayOperator.Management
