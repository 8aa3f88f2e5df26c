import GatewayOperator.Kube.Call
import GatewayOperator.Resource.Meta

/-!
# Controllers

The operator has two controllers, one for API definitions and one for ingresses. Each puts a finalizer
of its own on the objects it looks after, so that it can clean up before they go.
-/

set_option autoImplicit false

namespace GatewayOperator

/-- A controller, named for the objects it looks after. -/
inductive Controller where
  | apiDefinition
  | ingress
  deriving DecidableEq, Repr

namespace Controller

/-- The kind of the objects. -/
def kind : Controller → Kube.Kind
  | .apiDefinition => .apiDefinitions
  | .ingress => .ingresses

/-- The name of the kind in an event and in the metrics. -/
def kindName : Controller → String
  | .apiDefinition => "ApiDefinition"
  | .ingress => "Ingress"

/-- The finalizer that the controller puts on an object. -/
def finalizer : Controller → String
  | .apiDefinition => "finalizers.apim.io/apidefinition-deletion"
  | .ingress => "finalizers.apim.io/ingress"

/-- An object as the subject of an event. -/
def subject (c : Controller) (m : Resource.Meta) : Kube.Subject :=
  ⟨c.kindName, m.namespace, m.name⟩

end Controller

end GatewayOperator
