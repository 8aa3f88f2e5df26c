import GatewayOperator.Resource.ApiDefinition

/-!
# Payloads

The body that creates or replaces an API on the backend: the specification of a definition with its
cross ID in place of the pinned one and without its context, the id of the record if it replaces one,
and the mark that the API is managed from the cluster.
-/

set_option autoImplicit false

namespace GatewayOperator.Management

open GatewayOperator.Resource GatewayOperator.Json

/-- The body that creates or replaces an API. -/
structure Payload where
  id : Option String
  crossId : String
  name : String
  version : String
  description : Option String
  state : ApiState
  lifecycleState : LifecycleState
  visibility : Visibility
  tags : List String
  labels : List String
  proxy : Option Json
  plans : Option Json
  flows : Option Json
  resources : Option Json
  properties : Option Json
  primaryOwner : Option Json
  metadata : Option Json
  responseTemplates : Option Json
  deriving Repr

namespace Payload

/-- The payload of a specification. -/
def ofSpec (s : ApiSpec) (crossId : String) (id : Option String) : Payload where
  id := id
  crossId := crossId
  name := s.name
  version := s.version
  description := s.description
  state := s.state
  lifecycleState := s.lifecycleState
  visibility := s.visibility
  tags := s.tags
  labels := s.labels
  proxy := s.proxy
  plans := s.plans
  flows := s.flows
  resources := s.resources
  properties := s.properties
  primaryOwner := s.primaryOwner
  metadata := s.metadata
  responseTemplates := s.responseTemplates

/-- The same payload, addressed to an existing record. -/
def withId (p : Payload) (id : String) : Payload := { p with id := some id }

/-- The mark of an API that is managed from the cluster, which keeps it read-only elsewhere. -/
def definitionContext : Json :=
  .object [("origin", .string "kubernetes"), ("mode", .string "fully_managed")]

/-- Encode a payload. -/
def encode (p : Payload) : Json :=
  .object <| member? "id" (p.id.map .string)
    ++ [("crossId", .string p.crossId), ("name", .string p.name), ("version", .string p.version)]
    ++ member? "description" (p.description.map .string)
    ++ [("state", .string p.state.name), ("lifecycle_state", .string p.lifecycleState.name),
      ("visibility", .string p.visibility.name), ("tags", Json.strings p.tags),
      ("labels", Json.strings p.labels)]
    ++ member? "proxy" p.proxy
    ++ member? "plans" p.plans
    ++ member? "flows" p.flows
    ++ member? "resources" p.resources
    ++ member? "properties" p.properties
    ++ member? "primaryOwner" p.primaryOwner
    ++ member? "metadata" p.metadata
    ++ member? "response_templates" p.responseTemplates
    ++ [("definition_context", definitionContext)]

end Payload

end GatewayOperator.Management
