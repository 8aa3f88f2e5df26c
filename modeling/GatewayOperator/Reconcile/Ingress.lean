import GatewayOperator.Reconcile.Finalizer
import GatewayOperator.Settings
import GatewayOperator.Trust.Publication

/-!
# Reconciling ingresses

A live ingress of the operator's class is published and a dying one is withdrawn. An ingress that moved to
another class is withdrawn like a dying one and then loses the finalizer, so that it can go without the
operator.
-/

set_option autoImplicit false

namespace GatewayOperator.Reconcile.Ingress

open GatewayOperator.Resource

/-- The finalizer on an ingress. -/
def finalizer : String := Controller.ingress.finalizer

/-- The failures of an ingress are forgotten, and the next change is awaited. -/
def settled (ingress : Resource.Ingress) : Pass Action := do
  ask (.settle ingress.metadata.key)
  return .awaitChange

/-- The pass over a live ingress. -/
def published (settings : Settings) (ingress : Resource.Ingress) : Pass Action := do
  trust (Trust.publish ingress settings.ingressClass)
  settled ingress

/-- The notice of a withdrawal. -/
def withdrawalNotice (ingress : Resource.Ingress) : Kube.Notice :=
  ⟨.normal, "DeleteRequested",
    "Withdrew \x60" ++ ingress.metadata.anyName ++ "\x60 from the pem registries"⟩

/-- The pass over a dying ingress. -/
def withdrawn (settings : Settings) (ingress : Resource.Ingress) : Pass Action := do
  trust (Trust.withdraw ingress settings.ingressClass)
  let action ← settled ingress
  publishEvent .ingress ingress.metadata "Deleting" (withdrawalNotice ingress)
  return action

/-- The pass over an ingress of another class. -/
def dismissed (settings : Settings) (ingress : Resource.Ingress) : Pass Action := do
  if ingress.metadata.hasFinalizer finalizer then
    trust (Trust.withdraw ingress settings.ingressClass)
    cluster (.setIngressFinalizers ingress.metadata
      (ingress.metadata.finalizerList.filter fun f => f ≠ finalizer))
    settled ingress
  else settled ingress

/-- The pass over an ingress of a namespace. -/
def pass (settings : Settings) (ingress : Resource.Ingress) (ns : String) : Pass Action :=
  if Trust.isTracked ingress settings.ingressClass then
    reported .ingress ingress.metadata <|
      guarded .ingress ns ingress.metadata (published settings ingress) (withdrawn settings ingress)
  else dismissed settings ingress

/-- Attend to an ingress. -/
def attend (settings : Settings) (ingress : Resource.Ingress) : Work Ending :=
  attended .ingress ingress.metadata (pass settings ingress)

end GatewayOperator.Reconcile.Ingress
