import GatewayOperator.Json.Decode
import GatewayOperator.Resource.Meta

/-!
# API definitions

An API definition declares an API that the operator publishes to an API management backend. Its
specification holds what the backend shall know; parts that only the backend understands are kept as
JSON. Its status records where the operator is in bringing the backend in line.

Each record has a decoder and an encoder. The encoder writes the fields in the order of declaration and
leaves absent ones out.
-/

set_option autoImplicit false

namespace GatewayOperator.Resource

open GatewayOperator.Json

/-- A reference to a management context. -/
structure ContextReference where
  name : String
  «namespace» : Option String
  deriving DecidableEq, Repr

/-- The namespace of the context, by default that of the referring object. -/
def ContextReference.namespaceOr (r : ContextReference) (default : String) : String :=
  match r.namespace with
  | none => default
  | some ns => if ns = "" then default else ns

/-- Whether an API can be reached from the gateway. -/
inductive ApiState where
  | started
  | stopped
  deriving DecidableEq, Repr

/-- Where an API stands in its life. -/
inductive LifecycleState where
  | created
  | published
  | unpublished
  | deprecated
  | archived
  deriving DecidableEq, Repr

/-- Whether an API is shown to everybody on the portal. -/
inductive Visibility where
  | «public»
  | «private»
  deriving DecidableEq, Repr

/-- The states by name. -/
def ApiState.names : List (String × ApiState) := [("STARTED", .started), ("STOPPED", .stopped)]

/-- The name of a state. -/
def ApiState.name : ApiState → String
  | .started => "STARTED"
  | .stopped => "STOPPED"

/-- The lifecycle states by name. -/
def LifecycleState.names : List (String × LifecycleState) :=
  [("CREATED", .created), ("PUBLISHED", .published), ("UNPUBLISHED", .unpublished),
    ("DEPRECATED", .deprecated), ("ARCHIVED", .archived)]

/-- The name of a lifecycle state. -/
def LifecycleState.name : LifecycleState → String
  | .created => "CREATED"
  | .published => "PUBLISHED"
  | .unpublished => "UNPUBLISHED"
  | .deprecated => "DEPRECATED"
  | .archived => "ARCHIVED"

/-- The visibilities by name. -/
def Visibility.names : List (String × Visibility) := [("PUBLIC", .public), ("PRIVATE", .private)]

/-- The name of a visibility. -/
def Visibility.name : Visibility → String
  | .public => "PUBLIC"
  | .private => "PRIVATE"

/-- What a definition asks for. -/
structure ApiSpec where
  name : String
  version : String
  description : Option String
  crossId : Option String
  contextRef : Option ContextReference
  state : ApiState
  lifecycleState : LifecycleState
  visibility : Visibility
  tags : List String
  labels : List String
  proxy : Option Json
  plans : Option Json
  flows : Option Json
  resources : Option Json
  properties : Option Json
  primaryOwner : Option Json
  metadata : Option Json
  responseTemplates : Option Json
  deriving Repr

/-- Where the operator is in bringing the backend in line with a definition. -/
inductive ProcessingStatus where
  /-- The definition is being synchronized, or a failure will be retried. -/
  | reconciling
  /-- The backend holds the definition. -/
  | completed
  /-- A failure will not be retried until the definition or its context changes. -/
  | failed
  deriving DecidableEq, Repr

/-- The processing statuses by name. -/
def ProcessingStatus.names : List (String × ProcessingStatus) :=
  [("Reconciling", .reconciling), ("Completed", .completed), ("Failed", .failed)]

/-- The name of a processing status. -/
def ProcessingStatus.name : ProcessingStatus → String
  | .reconciling => "Reconciling"
  | .completed => "Completed"
  | .failed => "Failed"

/-- What the operator recorded about a definition. -/
structure ApiStatus where
  id : Option String
  crossId : Option String
  processingStatus : ProcessingStatus
  message : Option String
  observedGeneration : Option Int
  deriving DecidableEq, Repr

/-- An API definition. -/
structure ApiDefinition where
  metadata : Meta
  spec : ApiSpec
  status : Option ApiStatus
  deriving Repr

/-- The version of the API group of the operator's own resources. -/
def apiVersion : String := "apim.io/v1alpha1"

namespace ContextReference

/-- Decode a reference to a context. -/
def decode : Json → Decoded ContextReference :=
  Decode.record "struct ContextReference" 2 fun f =>
    mk <$> f.required 0 "name" Decode.text <*> f.optional 1 "namespace" Decode.text

/-- Encode a reference to a context. -/
def encode (r : ContextReference) : Json :=
  .object (("name", .string r.name) :: member? "namespace" (r.namespace.map .string))

end ContextReference

namespace ApiSpec

/-- Decode a specification. -/
def decode : Json → Decoded ApiSpec :=
  Decode.record "struct ApiDefinitionSpec" 18 fun f =>
    mk <$> f.required 0 "name" Decode.text
      <*> f.required 1 "version" Decode.text
      <*> f.optional 2 "description" Decode.text
      <*> f.optional 3 "crossId" Decode.text
      <*> f.optional 4 "contextRef" ContextReference.decode
      <*> f.defaulted 5 "state" .started (Decode.variant ApiState.names)
      <*> f.defaulted 6 "lifecycleState" .created (Decode.variant LifecycleState.names)
      <*> f.defaulted 7 "visibility" .private (Decode.variant Visibility.names)
      <*> f.defaulted 8 "tags" [] (Decode.list Decode.text)
      <*> f.defaulted 9 "labels" [] (Decode.list Decode.text)
      <*> f.optional 10 "proxy" Decode.any
      <*> f.optional 11 "plans" Decode.any
      <*> f.optional 12 "flows" Decode.any
      <*> f.optional 13 "resources" Decode.any
      <*> f.optional 14 "properties" Decode.any
      <*> f.optional 15 "primaryOwner" Decode.any
      <*> f.optional 16 "metadata" Decode.any
      <*> f.optional 17 "responseTemplates" Decode.any

/-- A list that is left out when it is empty. -/
def nonEmpty? (xs : List String) : Option Json :=
  if xs = [] then none else some (Json.strings xs)

/-- Encode a specification. -/
def encode (s : ApiSpec) : Json :=
  .object <| [("name", .string s.name), ("version", .string s.version)]
    ++ member? "description" (s.description.map .string)
    ++ member? "crossId" (s.crossId.map .string)
    ++ member? "contextRef" (s.contextRef.map ContextReference.encode)
    ++ [("state", .string s.state.name), ("lifecycleState", .string s.lifecycleState.name),
      ("visibility", .string s.visibility.name)]
    ++ member? "tags" (nonEmpty? s.tags)
    ++ member? "labels" (nonEmpty? s.labels)
    ++ member? "proxy" s.proxy
    ++ member? "plans" s.plans
    ++ member? "flows" s.flows
    ++ member? "resources" s.resources
    ++ member? "properties" s.properties
    ++ member? "primaryOwner" s.primaryOwner
    ++ member? "metadata" s.metadata
    ++ member? "responseTemplates" s.responseTemplates

end ApiSpec

namespace ApiStatus

/-- Decode a status. -/
def decode : Json → Decoded ApiStatus :=
  Decode.record "struct ApiDefinitionStatus" 5 fun f =>
    mk <$> f.optional 0 "id" Decode.text
      <*> f.optional 1 "crossId" Decode.text
      <*> f.required 2 "processingStatus" (Decode.variant ProcessingStatus.names)
      <*> f.optional 3 "message" Decode.text
      <*> f.optional 4 "observedGeneration" Decode.int64

/-- Encode a status. -/
def encode (s : ApiStatus) : Json :=
  .object <| member? "id" (s.id.map .string)
    ++ member? "crossId" (s.crossId.map .string)
    ++ [("processingStatus", .string s.processingStatus.name)]
    ++ member? "message" (s.message.map .string)
    ++ member? "observedGeneration" (s.observedGeneration.map Json.int)

end ApiStatus

namespace ApiDefinition

/-- The status of a definition; only a definition given by its members may lack it. -/
def statusField (f : Decode.Fields) : Reading (Option ApiStatus) :=
  match f with
  | .named _ => f.optional 2 "status" ApiStatus.decode
  | .listed _ _ => f.required 2 "status" (Decode.Fields.nullable ApiStatus.decode)

/-- Decode a definition. -/
def decode : Json → Decoded ApiDefinition :=
  Decode.record "struct ApiDefinition" 3 fun f =>
    mk <$> f.required 0 "metadata" Meta.decode <*> f.required 1 "spec" ApiSpec.decode
      <*> statusField f

/-- Encode a definition. -/
def encode (d : ApiDefinition) : Json :=
  .object <| [("apiVersion", .string apiVersion), ("kind", .string "ApiDefinition"),
    ("metadata", d.metadata.encode), ("spec", d.spec.encode)]
    ++ member? "status" (d.status.map ApiStatus.encode)

end ApiDefinition

end GatewayOperator.Resource
