import GatewayOperator.Reconcile.Call

/-!
# Passes under a finalizer

An object must not go before the operator has cleaned up after it. So a pass first looks for the finalizer
of its controller: a live object without it only gets it, a live object with it is applied, a dying object
with it is cleaned up and then loses it, and a dying object without it is left alone. The finalizer is
removed only after a clean-up that succeeded.
-/

set_option autoImplicit false

namespace GatewayOperator.Reconcile

open GatewayOperator.Resource

/-- What the finalizers and the deletion of an object call for. -/
inductive Stage where
  /-- Add the finalizer. -/
  | attach
  /-- Bring the world in line with the object. -/
  | apply
  /-- Clean up, and remove the finalizer, which stands at an index. -/
  | cleanUp (index : Nat)
  /-- Nothing is left to do. -/
  | leave
  deriving DecidableEq, Repr

/-- What an object calls for. -/
def Stage.of (finalizer : String) (m : Meta) : Stage :=
  match m.finalizerList.findIdx? fun f => f = finalizer, m.isDeleting with
  | none, false => .attach
  | some _, false => .apply
  | some index, true => .cleanUp index
  | none, true => .leave

/-- A pass under a finalizer. -/
abbrev Guarded := Program.Pass Call.Answer (FinalizerFailure PassFailure)

/-- The name of an object, which a change to its finalizers needs. -/
def nameOf (m : Meta) : Guarded String :=
  match m.name with
  | some name => pure name
  | none => throw .unnamedObject

/-- Change the finalizers of an object. -/
def changeFinalizers (controller : Controller) (ns name : String)
    (change : Cluster.FinalizerChange)
    (failure : Kube.Failure → FinalizerFailure PassFailure) : Guarded Unit :=
  ExceptT.adapt failure (ExceptT.mk (askCluster (.changeFinalizers controller ns name change)))

/-- The pass over an object of a namespace under the finalizer of its controller. -/
def guarded (controller : Controller) (ns : String) (m : Meta) (apply cleanUp : Pass Action) :
    Guarded Action :=
  match Stage.of controller.finalizer m with
  | .attach => do
    let name ← nameOf m
    changeFinalizers controller ns name (.attach m.finalizerList controller.finalizer) .addFinalizer
    return .awaitChange
  | .apply => ExceptT.adapt .applyFailed apply
  | .cleanUp index => do
    let name ← nameOf m
    let action ← ExceptT.adapt .cleanupFailed cleanUp
    changeFinalizers controller ns name (.detach index controller.finalizer) .removeFinalizer
    return action
  | .leave => return .awaitChange

/-- Publish an event about an object. -/
def publishEvent (controller : Controller) (m : Meta) (action : String) (notice : Kube.Notice) :
    Pass Unit :=
  cluster (.publish ⟨notice, action, controller.subject m⟩)

/-- The notice of a failed pass. -/
def failureNotice (failure : FinalizerFailure PassFailure) : Kube.Notice :=
  ⟨.warning, "FailedReconcile", failure.message⟩

/-- The pass under a finalizer, whose failure is told to the users, counted and handed on. -/
def reported (controller : Controller) (m : Meta) (pass : Guarded Action) : Pass Action := do
  match ← Program.Pass.attempt pass with
  | .ok action => return action
  | .error failure =>
    publishEvent controller m "Reconcile" (failureNotice failure)
    ask (.countFailure controller.kindName m.anyName (PassFailure.finalizer failure).label)
    throw (.finalizer failure)

/-- How a controller is done with an object for now. -/
inductive Ending where
  | acted (action : Action)
  | failed (failure : PassFailure) (action : Action)
  /-- The object has no namespace, so there was no pass. -/
  | unscoped
  deriving Repr

/-- A pass over an object, which counts even if the object has no namespace; and after a failed pass the
choice of the follow-up. -/
def attended (controller : Controller) (m : Meta) (pass : String → Pass Action) : Work Ending := do
  Program.call (Call.countPass controller.kindName)
  match m.namespace with
  | none => return .unscoped
  | some ns =>
    match ← (pass ns).run with
    | .ok action => return .acted action
    | .error failure =>
      let action ← Program.call (Call.followUp m.key failure)
      return .failed failure action

end GatewayOperator.Reconcile
