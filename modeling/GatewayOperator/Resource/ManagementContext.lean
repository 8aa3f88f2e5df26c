import GatewayOperator.Json.Decode
import GatewayOperator.Resource.ApiDefinition

/-!
# Management contexts

A management context holds the location of one API management backend and the credentials for it. Any
number of definitions may share it. A bearer token takes precedence over a user name with password, and
inline values take precedence over a reference to a secret.
-/

set_option autoImplicit false

namespace GatewayOperator.Resource

open GatewayOperator.Json

/-- A user name with its password. -/
structure BasicAuth where
  username : String
  password : String
  deriving DecidableEq, Repr

/-- A reference to a secret. -/
structure SecretReference where
  name : String
  «namespace» : Option String
  deriving DecidableEq, Repr

/-- How to authenticate against a backend. -/
structure ContextAuth where
  bearerToken : Option String
  credentials : Option BasicAuth
  secretRef : Option SecretReference
  deriving DecidableEq, Repr

/-- Where a backend is and how to authenticate against it. -/
structure ContextSpec where
  baseUrl : String
  organizationId : String
  environmentId : String
  auth : ContextAuth
  deriving DecidableEq, Repr

/-- A management context. -/
structure ManagementContext where
  metadata : Meta
  spec : ContextSpec
  deriving Repr

/-- Decode a user name with its password. -/
def BasicAuth.decode : Json → Decoded BasicAuth :=
  Decode.record "struct BasicAuth" 2 fun f =>
    mk <$> f.required 0 "username" Decode.text <*> f.required 1 "password" Decode.text

/-- Encode a user name with its password. -/
def BasicAuth.encode (b : BasicAuth) : Json :=
  .object [("username", .string b.username), ("password", .string b.password)]

/-- Decode a reference to a secret. -/
def SecretReference.decode : Json → Decoded SecretReference :=
  Decode.record "struct SecretReference" 2 fun f =>
    mk <$> f.required 0 "name" Decode.text <*> f.optional 1 "namespace" Decode.text

/-- Encode a reference to a secret. -/
def SecretReference.encode (r : SecretReference) : Json :=
  .object (("name", .string r.name) :: member? "namespace" (r.namespace.map .string))

/-- Authentication without any material. -/
def ContextAuth.empty : ContextAuth := ⟨none, none, none⟩

/-- Decode authentication. -/
def ContextAuth.decode : Json → Decoded ContextAuth :=
  Decode.record "struct ManagementContextAuth" 3 fun f =>
    mk <$> f.optional 0 "bearerToken" Decode.text
      <*> f.optional 1 "credentials" BasicAuth.decode
      <*> f.optional 2 "secretRef" SecretReference.decode

/-- Encode authentication. -/
def ContextAuth.encode (a : ContextAuth) : Json :=
  .object <| member? "bearerToken" (a.bearerToken.map .string)
    ++ member? "credentials" (a.credentials.map BasicAuth.encode)
    ++ member? "secretRef" (a.secretRef.map SecretReference.encode)

/-- The organization or environment of a context that names none. -/
def defaultScope : String := "DEFAULT"

/-- Decode the specification of a context. -/
def ContextSpec.decode : Json → Decoded ContextSpec :=
  Decode.record "struct ManagementContextSpec" 4 fun f =>
    mk <$> f.required 0 "baseUrl" Decode.text
      <*> f.defaulted 1 "organizationId" defaultScope Decode.text
      <*> f.defaulted 2 "environmentId" defaultScope Decode.text
      <*> f.defaulted 3 "auth" ContextAuth.empty ContextAuth.decode

/-- Encode the specification of a context. -/
def ContextSpec.encode (s : ContextSpec) : Json :=
  .object [("baseUrl", .string s.baseUrl), ("organizationId", .string s.organizationId),
    ("environmentId", .string s.environmentId), ("auth", s.auth.encode)]

namespace ManagementContext

/-- Decode a context. -/
def decode : Json → Decoded ManagementContext :=
  Decode.record "struct ManagementContext" 2 fun f =>
    mk <$> f.required 0 "metadata" Meta.decode <*> f.required 1 "spec" ContextSpec.decode

/-- Encode a context. -/
def encode (c : ManagementContext) : Json :=
  .object [("apiVersion", .string apiVersion), ("kind", .string "ManagementContext"),
    ("metadata", c.metadata.encode), ("spec", c.spec.encode)]

end ManagementContext

end GatewayOperator.Resource
