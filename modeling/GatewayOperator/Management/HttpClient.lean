import GatewayOperator.Http.Exchange
import GatewayOperator.Management.Client
import GatewayOperator.Management.Endpoint
import GatewayOperator.Text.Base64
import GatewayOperator.Text.Cut

/-!
# The management API over HTTP

Each call of the management API is one request. A stopping operator sends none. A record that does not
exist is no failure of a lookup or a deletion; any other status that is no success is a failure with
the start of the body as its message, since such bodies can be whole pages.
-/

set_option autoImplicit false

namespace GatewayOperator.Management

/-- How to reach the APIs of one organization and environment. -/
structure Backend where
  collection : Url
  credentials : Credentials
  timeout : Span
  deriving Repr

namespace Backend

/-- The backend below a base URL. -/
def ofBase (base organization environment : String) (credentials : Credentials) (timeout : Span) :
    Except Failure Backend :=
  (Endpoint.collection base organization environment).map fun url => ⟨url, credentials, timeout⟩

/-- The header value of a user name and a password. -/
def basicAuthorization (user password : String) : String :=
  "Basic " ++ String.ofList (Text.Base64.encode (Text.utf8 (user ++ ":" ++ password)))

/-- The header value of credentials. -/
def authorization : Credentials → String
  | .bearer token => "Bearer " ++ token
  | .basic user password => basicAuthorization user password

/-- Whether a text can be the value of a header: it holds no control but tabs. -/
def isHeaderValue (s : String) : Bool :=
  s.toList.all fun c => (0x20 ≤ c.toNat && c.toNat ≠ 0x7F) || c = '\t'

/-- The text that escaped user information stands for. -/
def plainUserinfo? (cs : List Char) : Option String :=
  Text.Utf8.read? (Url.decodeBytes cs)

/-- A URL as it is requested, and the header value of its user information. Information whose user name
is no text, or that holds neither a user name nor a password that is a text, stays in the URL. -/
def splitUserinfo (url : Url) : Url × List String :=
  match url.userinfo with
  | none => (url, [])
  | some info =>
    match plainUserinfo? info.user, info.password.bind plainUserinfo? with
    | none, _ => (url, [])
    | some "", none => (url, [])
    | some user, password => (url.withoutUserinfo, [basicAuthorization user (password.getD "")])

/-- The greatest length of the address of a request, in bytes. -/
def maxAddressLength : Nat := 65534

/-- Whether a request can be addressed to a URL: every character of its host can stand in an address
(RFC 3986), and the whole is not too long. -/
def isAddress (url : Url) : Bool :=
  url.host.chars.all (fun c => c ∉ ['"', '\x60', '\x7b', '\x7d']) &&
    url.chars.length ≤ maxAddressLength

/-- The request for a URL, if the credentials can be sent. -/
def request? (b : Backend) (method : Http.Method) (url : Url) (payload : Option Payload) :
    Option Http.Request :=
  let (target, inUrl) := splitUserinfo url
  let own := authorization b.credentials
  if isHeaderValue own then
    some {
      method
      url := target
      headers :=
        (inUrl ++ [own]).map (fun value => ("authorization", value)) ++
          ("accept", "application/json") ::
          (if payload.isSome then [("content-type", "application/json")] else [])
      body := payload.map fun p => p.encode.render
      timeout := b.timeout }
  else none

/-- A pass over HTTP exchanges. -/
abbrev Wire := Program.Pass Http.Call.Answer Failure

/-- Send a request, unless the operator is stopping. -/
def send (b : Backend) (method : Http.Method) (url : Url) (payload : Option Payload) :
    Wire (Http.Status × List UInt8) := do
  if ← (Program.Pass.ask Http.Call.isStopping : Wire Bool) then throw .cancelled
  match b.request? method url payload with
  | none => throw (.invalidUrl "builder error")
  | some request =>
    if !isAddress request.url then
      throw (.invalidUrl ("builder error for url (" ++ request.url.text ++ ")"))
    match ← (Program.Pass.ask (Http.Call.send request) : Wire Http.Outcome) with
    | .response status body => return (status, body)
    | .unreachable =>
      throw (.transport ("error sending request for url (" ++ request.url.text ++ ")"))
    | .timedOut => throw .timeout
    | .stopped => throw .cancelled

/-- The greatest number of bytes of a body that a failure reports. -/
def messageLimit : Nat := 512

/-- The part of a body that a failure reports: whole characters, as many as the limit holds. -/
def excerpt (body : String) : String := Text.cut messageLimit body

/-- The failure of an answer that is no success. -/
def statusFailure? (status : Http.Status) (body : List UInt8) : Option Failure :=
  if status.isSuccess then none else some (.status status (excerpt (Text.Utf8.readLossy body)))

/-- The failure of a body that does not hold what it should. -/
def unreadable : Failure := .decode "error decoding response body"

/-- The value in the body of an answer. -/
def readAnswer {α : Type} (read? : List UInt8 → Option α) (status : Http.Status)
    (body : List UInt8) : Except Failure α :=
  match statusFailure? status body, read? body with
  | some failure, _ => .error failure
  | none, some value => .ok value
  | none, none => .error unreadable

/-- Whether an answer says that there is no such record. -/
def isMissing (status : Http.Status) : Bool := status.code = 404

/-- The first record that the answer to a lookup lists. -/
def readLookup (status : Http.Status) (body : List UInt8) : Except Failure (Option Record) :=
  if isMissing status then .ok none
  else (readAnswer Record.listOfBody? status body).map List.head?

/-- The outcome of a deletion. -/
def readDeletion (status : Http.Status) (body : List UInt8) : Except Failure Unit :=
  if isMissing status then .ok ()
  else
    match statusFailure? status body with
    | some failure => .error failure
    | none => .ok ()

/-- The exchange of a call, as a pass. -/
def exchange (b : Backend) : (c : Call) → Wire c.Result
  | .lookup crossId => do
    let (status, body) ← b.send .get (Endpoint.lookup b.collection crossId) none
    Program.Pass.ofResult (readLookup status body)
  | .create payload => do
    let (status, body) ← b.send .post (Endpoint.creation b.collection) (some payload)
    Program.Pass.ofResult (readAnswer Record.ofBody? status body)
  | .update id payload => do
    let (status, body) ← b.send .put (Endpoint.change b.collection id) (some payload)
    Program.Pass.ofResult (readAnswer Record.ofBody? status body)
  | .delete id => do
    let (status, body) ← b.send .delete (Endpoint.record b.collection id) none
    Program.Pass.ofResult (readDeletion status body)

/-- The exchange of a call. -/
def perform (b : Backend) (c : Call) : Program Http.Call.Answer c.Answer := (b.exchange c).run

/-- A session over HTTP. -/
def converse {α : Type} (b : Backend) (session : Session α) :
    Program Http.Call.Answer (Except Failure α) :=
  session.run.interpret b.perform

end Backend

end GatewayOperator.Management
