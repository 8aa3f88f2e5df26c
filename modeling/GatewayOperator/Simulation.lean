import GatewayOperator.Cluster.Wire
import GatewayOperator.Kube.Interference
import GatewayOperator.Metrics
import GatewayOperator.Reconcile.ApiDefinition
import GatewayOperator.Reconcile.Ingress

/-!
# The operator at work

A world holds a cluster in memory, what interferes with it, the answers that the management APIs will
give, and the books of the operator: the metrics and, per controller, the failures in a row of each object.
A program of a controller runs in a world, which answers its calls one after the other and keeps a journal
of the requests that reached a server.
-/

set_option autoImplicit false

namespace GatewayOperator

/-- A request that reached a server. -/
inductive Sent where
  | toCluster (call : Kube.Call)
  | toBackend (request : Http.Request)
  deriving Repr

/-- A cluster, its surroundings and the books of the operator. -/
structure World where
  store : Kube.Store
  interferences : List Kube.Interference
  /-- What comes of the next requests to management APIs; after these none is within reach. -/
  outcomes : List Http.Outcome
  /-- The requests that reached a server, in order. -/
  journal : List Sent
  /-- Whether the operator is stopping. -/
  stopping : Bool
  metrics : Metrics
  apiBackoff : Backoff
  ingressBackoff : Backoff
  deriving Repr

namespace World

/-- The world at the start of an operator: an empty cluster and empty books. -/
def initial (settings : Settings) : World where
  store := Kube.Store.empty
  interferences := []
  outcomes := []
  journal := []
  stopping := false
  metrics := Metrics.empty
  apiBackoff := Backoff.new settings.retryBase settings.retryMost
  ingressBackoff := Backoff.new settings.retryBase settings.retryMost

/-- The delays of a controller. -/
def backoff (w : World) : Controller → Backoff
  | .apiDefinition => w.apiBackoff
  | .ingress => w.ingressBackoff

/-- The world with other delays of a controller. -/
def withBackoff (w : World) (c : Controller) (b : Backoff) : World :=
  match c with
  | .apiDefinition => { w with apiBackoff := b }
  | .ingress => { w with ingressBackoff := b }

/-- The world with one more request in the journal. -/
def noting (w : World) (sent : Sent) : World := { w with journal := w.journal ++ [sent] }

/-- The answer of the cluster to a request. -/
def serveKube (c : Kube.Call) (w : World) : c.Answer × World :=
  let w := w.noting (.toCluster c)
  match Kube.Interference.strike c w.interferences with
  | (some i, left) =>
    (i.answer c, { w with interferences := left, store := i.apply c w.store })
  | (none, left) =>
    let (answer, store) := w.store.respond c
    (answer, { w with interferences := left, store := store })

/-- The answer to a call of the client of a management API. -/
def serveHttp (c : Http.Call) (w : World) : c.Answer × World :=
  match c with
  | .isStopping => (w.stopping, w)
  | .send request =>
    match w.outcomes with
    | [] => (.unreachable, w)
    | .unreachable :: rest => (.unreachable, { w with outcomes := rest })
    | .stopped :: rest =>
      (.stopped, { w with outcomes := rest, stopping := true }.noting (.toBackend request))
    | outcome :: rest => (outcome, { w with outcomes := rest }.noting (.toBackend request))

/-- The answer to a call of a controller at a time. -/
def serve (controller : Controller) (now : Instant) (c : Reconcile.Call) (w : World) :
    c.Answer × World :=
  match c with
  | .cluster c => c.perform.run serveKube w
  | .http c => w.serveHttp c
  | .now => (now, w)
  | .countPass kind => ((), { w with metrics := w.metrics.countPass kind })
  | .countFailure kind object cause =>
    ((), { w with metrics := w.metrics.countFailure kind object cause })
  | .countRequest operation failed =>
    ((), { w with metrics := w.metrics.countRequest operation failed })
  | .followUp key failure =>
    let (action, b) := (w.backoff controller).actionFor key failure
    (action, w.withBackoff controller b)
  | .settle key => ((), w.withBackoff controller ((w.backoff controller).reset key))

/-- The run of a program of a controller. -/
def perform {α : Type} (w : World) (controller : Controller) (now : Instant)
    (work : Reconcile.Work α) : α × World :=
  work.run (serve controller now) w

end World

end GatewayOperator
