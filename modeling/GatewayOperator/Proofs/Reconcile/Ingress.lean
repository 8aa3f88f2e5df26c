import GatewayOperator.Proofs.Reconcile.Guarded
import GatewayOperator.Reconcile.Ingress

/-!
# What a pass over an ingress asks

A publication reads and writes secrets and registries, and looks at the clock. It tells nobody and it counts nothing:
that is left to the pass around it.
-/

set_option autoImplicit false

namespace GatewayOperator.Reconcile

open GatewayOperator.Resource
open Program (Asks)

/-- Whether a publication makes a call. -/
def IsPublication : Call → Prop
  | .cluster (.secret _ _) => True
  | .cluster (.setSecretFinalizers _ _) => True
  | .cluster (.ingresses _) => True
  | .cluster .registries => True
  | .cluster (.registry _ _) => True
  | .cluster (.replaceRegistry _) => True
  | .now => True
  | _ => False

/-- What a write of an entry comes to is part of a publication. -/
theorem asks_ofEntry (c : Trust.Entry.Call) : (ofEntry c).Asks IsPublication := by
  cases c with
  | read ns name => exact Program.asks_call trivial
  | replace registry => exact Program.asks_call trivial
  | now => exact Program.asks_call trivial

/-- What a call of a publication comes to is part of one. -/
theorem asks_ofTrust (c : Trust.Call) : (ofTrust c).Asks IsPublication := by
  cases c with
  | getSecret ns name => exact asks_cluster trivial
  | addFinalizer secret => exact asks_cluster trivial
  | removeFinalizer secret => exact asks_cluster trivial
  | listIngresses ns => exact asks_cluster trivial
  | listRegistries => exact asks_cluster trivial
  | writeEntry registry key value =>
    have hall : (Trust.Entry.write registry key value).run.Asks fun _ => True :=
      Program.asks_of_forall (fun _ => trivial) _
    exact hall.interpret fun c _ => asks_ofEntry c

/-- A publication makes no calls but its own. -/
theorem asks_trust {α : Type} (p : Trust.Publication α) : (trust p).run.Asks IsPublication := by
  have hall : p.run.Asks fun _ => True := Program.asks_of_forall (fun _ => trivial) _
  exact hall.interpret fun c _ => asks_ofTrust c

namespace Ingress

variable {sort : Call → Prop} {settings : Settings} {ingress : Resource.Ingress}

/-- To settle an ingress is one call. -/
theorem asks_settled (hsettle : ∀ key, sort (.settle key)) : (settled ingress).run.Asks sort :=
  Program.Pass.asks_bind (asks_ask (hsettle _)) fun _ => trivial

/-- A pass over a tracked ingress publishes and settles. -/
theorem asks_published (htrust : ∀ c, IsPublication c → sort c) (hsettle : ∀ key, sort (.settle key)) :
    (published settings ingress).run.Asks sort :=
  Program.Pass.asks_bind ((asks_trust _).mono htrust) fun _ => asks_settled hsettle

/-- The clean-up of a tracked ingress withdraws it, tells that and settles. -/
theorem asks_withdrawn (htrust : ∀ c, IsPublication c → sort c) (hsettle : ∀ key, sort (.settle key))
    (hpublish : ∀ event, sort (.cluster (.publish event))) :
    (withdrawn settings ingress).run.Asks sort := by
  refine Program.Pass.asks_bind ((asks_trust _).mono htrust) fun _ => ?_
  refine Program.Pass.asks_bind (asks_settled hsettle) fun _ => ?_
  exact Program.Pass.asks_bind (asks_cluster (hpublish _)) fun _ => trivial

/-- A pass over an ingress of another class withdraws it and settles, and it may write the finalizers. -/
theorem asks_dismissed (htrust : ∀ c, IsPublication c → sort c) (hsettle : ∀ key, sort (.settle key))
    (hfinalizers : ∀ m finalizers, sort (.cluster (.setIngressFinalizers m finalizers))) :
    (dismissed settings ingress).run.Asks sort := by
  unfold dismissed
  by_cases hcarries : ingress.metadata.hasFinalizer finalizer = true
  · rw [if_pos hcarries]
    refine Program.Pass.asks_bind ((asks_trust _).mono htrust) fun _ => ?_
    exact Program.Pass.asks_bind (asks_cluster (hfinalizers _ _)) fun _ => asks_settled hsettle
  · rw [if_neg hcarries]
    exact asks_settled hsettle

end Ingress

end GatewayOperator.Reconcile
