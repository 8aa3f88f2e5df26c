import GatewayOperator.Cluster.Call
import GatewayOperator.Backoff
import GatewayOperator.Http.Exchange
import GatewayOperator.Trust.Entry
import GatewayOperator.Trust.Publication

/-!
# What a reconcile pass does

A pass calls the cluster and a management API, looks at the clock, and keeps the books of its controller:
it counts what happened and it has the failures in a row of each object remembered or forgotten.
-/

set_option autoImplicit false

namespace GatewayOperator.Reconcile

open GatewayOperator.Resource

/-- A call of a reconcile pass. -/
inductive Call where
  | cluster (call : Cluster.Call)
  | http (call : Http.Call)
  | now
  /-- Count a pass over an object of a kind. -/
  | countPass (kind : String)
  /-- Count a failed pass over an object. -/
  | countFailure (kind object cause : String)
  /-- Count a use of the management API, with the kind of its failure if it failed. -/
  | countRequest (operation : String) (failed : Option String)
  /-- Remember a failure of a key and choose the follow-up. -/
  | followUp (key : String) (failure : PassFailure)
  /-- Forget the failures of a key. -/
  | settle (key : String)
  deriving Repr

/-- What a call is answered. -/
abbrev Call.Answer : Call → Type
  | .cluster c => c.Answer
  | .http c => c.Answer
  | .now => Instant
  | .countPass _ => Unit
  | .countFailure _ _ _ => Unit
  | .countRequest _ _ => Unit
  | .followUp _ _ => Action
  | .settle _ => Unit

/-- A program of a controller. -/
abbrev Work := Program Call.Answer

/-- A reconcile pass. -/
abbrev Pass := Program.Pass Call.Answer PassFailure

/-- The program of a call of the cluster. -/
def askCluster (c : Cluster.Call) : Work c.Answer := Program.call (Call.cluster c)

/-- The pass of a call of the cluster. -/
def cluster (c : Cluster.Call) : Pass c.Result := ExceptT.adapt .kube (ExceptT.mk (askCluster c))

/-- The writing of a registry entry, over the cluster. -/
def ofEntry : (c : Trust.Entry.Call) → Work c.Answer
  | .read ns name => askCluster (.registry ns name)
  | .replace registry => askCluster (.replaceRegistry registry)
  | .now => Program.call Call.now

/-- The calls of a publication, over the cluster. -/
def ofTrust : (c : Trust.Call) → Work c.Answer
  | .getSecret ns name => (cluster (.secret ns name)).run
  | .addFinalizer secret =>
    (cluster (.setSecretFinalizers secret.metadata (Trust.claimedFinalizers secret))).run
  | .removeFinalizer secret =>
    (cluster (.setSecretFinalizers secret.metadata (Trust.releasedFinalizers secret))).run
  | .listIngresses ns => (cluster (.ingresses ns)).run
  | .listRegistries => (cluster .registries).run
  | .writeEntry registry key value =>
    (Trust.Entry.write registry key value).run.interpret ofEntry

/-- A publication as a reconcile pass. -/
def trust {α : Type} (p : Trust.Publication α) : Pass α := ExceptT.mk (p.run.interpret ofTrust)

/-- The pass of a call whose answer is no failure. -/
def ask (c : Call) : Pass c.Answer := Program.Pass.ask c

end GatewayOperator.Reconcile
