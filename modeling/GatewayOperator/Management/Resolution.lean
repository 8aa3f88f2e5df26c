import GatewayOperator.Management.Client
import GatewayOperator.PassFailure
import GatewayOperator.Resource.Core
import GatewayOperator.Resource.ManagementContext
import GatewayOperator.Resource.Reference
import GatewayOperator.Text.Blank
import GatewayOperator.Text.Utf8

/-!
# Contexts and credentials of definitions

Which context a definition points at, which secret a context takes its credentials from, which
credentials a context or a secret holds, and, the other way round, which definitions depend on a context
or a secret and have to be looked at again when it changes.
-/

set_option autoImplicit false

namespace GatewayOperator.Management

open GatewayOperator.Resource

/-- Namespace and name of an object that is referred to. -/
abbrev Key := String × String

/-- Namespace and name in one text. -/
def Key.text (k : Key) : String := k.1 ++ "/" ++ k.2

/-- The context a definition points at. -/
def contextKey (api : ApiDefinition) : Option Key :=
  api.spec.contextRef.map fun r => (r.namespaceOr api.metadata.anyNamespace, r.name)

/-- The secret a context takes its credentials from. -/
def secretKey (context : ManagementContext) : Option Key :=
  context.spec.auth.secretRef.map fun r =>
    match r.namespace with
    | none => (context.metadata.anyNamespace, r.name)
    | some ns => (if ns = "" then context.metadata.anyNamespace else ns, r.name)

/-- The credentials written into a context: a token that is not blank, else a user name with
password. -/
def inlineCredentials (context : ManagementContext) : Option Credentials :=
  match context.spec.auth.bearerToken.bind Text.nonBlank? with
  | some token => some (.bearer token)
  | none => context.spec.auth.credentials.map fun b => .basic b.username b.password

/-- The key of a bearer token in a secret. -/
def bearerTokenKey : String := "bearerToken"

/-- The key of a user name in a secret. -/
def usernameKey : String := "username"

/-- The key of a password in a secret. -/
def passwordKey : String := "password"

/-- A value of a secret that is not blank, without the blanks around it. Data hides a text of the same
key. -/
def secretValue (secret : Secret) (key : String) : Except PassFailure (Option String) :=
  match secret.data.bind fun d => d.find? key with
  | some bytes =>
    match Text.Utf8.read? bytes with
    | some s => .ok (Text.nonBlank? s)
    | none => .error (.invalidCredentials secret.metadata.key)
  | none => .ok ((secret.stringData.bind fun d => d.find? key).bind Text.nonBlank?)

/-- The credentials that a secret holds: a token, else a user name with password. -/
def credentialsOfSecret (secret : Secret) : Except PassFailure Credentials := do
  match ← secretValue secret bearerTokenKey with
  | some token => pure (.bearer token)
  | none =>
    let username ← secretValue secret usernameKey
    let password ← secretValue secret passwordKey
    match username, password with
    | some username, some password => pure (.basic username password)
    | some _, none => .error (.secretKeyNotFound passwordKey secret.metadata.key)
    | none, _ => .error (.secretKeyNotFound bearerTokenKey secret.metadata.key)

/-- The definitions whose context is the one given. -/
def dependentApis (apis : List ApiDefinition) (context : ManagementContext) :
    List ApiDefinition :=
  apis.filter fun api =>
    contextKey api == some (context.metadata.anyNamespace, context.metadata.anyName)

/-- The contexts that take their credentials from a secret. -/
def dependentContexts (contexts : List ManagementContext) (secret : Secret) :
    List ManagementContext :=
  contexts.filter fun c =>
    secretKey c == some (secret.metadata.anyNamespace, secret.metadata.anyName)

/-- References to the definitions whose context is the one given, if each has a name. -/
def dependents (apis : List ApiDefinition) (context : ManagementContext) :
    Option (List Reference) :=
  Reference.ofMetas? ((dependentApis apis context).map ApiDefinition.metadata)

/-- References to the definitions whose context takes its credentials from a secret, if each has a
name. -/
def dependentsOfSecret (apis : List ApiDefinition) (contexts : List ManagementContext)
    (secret : Secret) : Option (List Reference) :=
  ((dependentContexts contexts secret).mapM (dependents apis)).map List.flatten

end GatewayOperator.Management
