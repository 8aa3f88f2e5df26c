import GatewayOperator.Management.Failure
import GatewayOperator.Management.Payload
import GatewayOperator.Management.Record
import GatewayOperator.Program
import GatewayOperator.Text.Shown

/-!
# The management API as the operator sees it

Four calls are all that a pass needs from an API management backend: look a record up by its cross ID,
create one, replace one, delete one. A lookup that finds nothing is no failure, and neither is the
deletion of a record that does not exist. Wherever the credentials for the backend are shown, a token and a
password are left out.
-/

set_option autoImplicit false

namespace GatewayOperator.Management

/-- The credentials for a backend. -/
inductive Credentials where
  | bearer (token : String)
  | basic (username password : String)
  deriving DecidableEq, Repr

/-- Credentials as they may be shown. -/
def Credentials.redacted : Credentials → String
  | .bearer _ => "Bearer(<redacted>)"
  | .basic username _ =>
    "Basic \x7b username: " ++ Text.quote username ++ ", password: \"<redacted>\" \x7d"

/-- A call of the management API. -/
inductive Call where
  | lookup (crossId : String)
  | create (payload : Payload)
  | update (id : String) (payload : Payload)
  | delete (id : String)
  deriving Repr

/-- What a successful call gives. -/
abbrev Call.Result : Call → Type
  | .lookup _ => Option Record
  | .create _ => Record
  | .update _ _ => Record
  | .delete _ => Unit

/-- What a call gives. -/
abbrev Call.Answer (c : Call) : Type := Except Failure c.Result

/-- A pass over the calls of the management API. -/
abbrev Session := Program.Pass Call.Answer Failure

/-- The session of a single call. -/
def Call.perform (c : Call) : Session c.Result := ExceptT.mk (Program.call c)

end GatewayOperator.Management
