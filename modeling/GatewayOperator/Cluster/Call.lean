import GatewayOperator.Controller
import GatewayOperator.Program
import GatewayOperator.Resource.ApiDefinition
import GatewayOperator.Resource.Core
import GatewayOperator.Resource.ManagementContext

/-!
# The cluster as the operator sees it

The operator reads contexts, secrets, ingresses and registries; it writes the status of an API
definition, the finalizers of objects, and registries; and it publishes events. Each of these is one
request. An object that is looked up and does not exist is no failure where its absence has a meaning.
-/

set_option autoImplicit false

namespace GatewayOperator.Cluster

open GatewayOperator.Resource

/-- A change to the finalizers of an object that holds only if they are as they were seen. -/
inductive FinalizerChange where
  /-- Add a finalizer after those that were seen. -/
  | attach (seen : List String) (finalizer : String)
  /-- Remove the finalizer that was seen at an index. -/
  | detach (index : Nat) (finalizer : String)
  deriving DecidableEq, Repr

/-- What the operator asks of the cluster. -/
inductive Call where
  | context («namespace» name : String)
  | secret («namespace» name : String)
  | ingresses («namespace» : String)
  /-- Every registry of the cluster. -/
  | registries
  | registry («namespace» name : String)
  | replaceRegistry (registry : ConfigMap)
  /-- Set the finalizers of a secret, given its metadata as they were read. -/
  | setSecretFinalizers (secret : Meta) (finalizers : List String)
  /-- Set the finalizers of an ingress, given its metadata as they were read. -/
  | setIngressFinalizers (ingress : Meta) (finalizers : List String)
  | changeFinalizers (controller : Controller) («namespace» name : String) (change : FinalizerChange)
  /-- Write the status of an API definition that was read at a version. -/
  | writeStatus («namespace» name : String) (version : Option String) (status : ApiStatus)
  | publish (event : Kube.Event)
  deriving Repr

/-- What a successful call gives. The result of a status write is the new version. -/
abbrev Call.Result : Call → Type
  | .context _ _ => Option ManagementContext
  | .secret _ _ => Option Secret
  | .ingresses _ => List Ingress
  | .registries => List ConfigMap
  | .registry _ _ => ConfigMap
  | .replaceRegistry _ => ConfigMap
  | .setSecretFinalizers _ _ => Unit
  | .setIngressFinalizers _ _ => Unit
  | .changeFinalizers _ _ _ _ => Unit
  | .writeStatus _ _ _ _ => Option String
  | .publish _ => Unit

/-- What a call gives. -/
abbrev Call.Answer (c : Call) : Type := Except Kube.Failure c.Result

end GatewayOperator.Cluster
