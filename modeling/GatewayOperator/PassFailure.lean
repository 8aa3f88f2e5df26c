import GatewayOperator.Kube.Failure
import GatewayOperator.Management.Failure
import GatewayOperator.Tls.Reason

/-!
# Failures of a reconcile pass

Every way in which a pass over an object can fail, the wording of each, the label under which it is
counted, and how the controller follows up: right away if somebody else wrote the object first, later
with growing delays, or only once a watched object changes. A failure that comes out of a finalizer is
followed up like the failure inside it.
-/

set_option autoImplicit false

namespace GatewayOperator

/-- How the controller follows up on a failed pass. -/
inductive Requeue where
  /-- Somebody else wrote the object first; read it again right away. -/
  | immediately
  /-- Try again later, with growing delays. -/
  | withBackoff
  /-- Only a change to a watched object will help. -/
  | awaitChange
  deriving DecidableEq, Repr

/-- A failure of a pass that runs under a finalizer; `ε` is the failure of the pass itself. -/
inductive FinalizerFailure (ε : Type) where
  | applyFailed (inner : ε)
  | cleanupFailed (inner : ε)
  | addFinalizer (inner : Kube.Failure)
  | removeFinalizer (inner : Kube.Failure)
  | unnamedObject
  | invalidFinalizer
  deriving Repr

/-- A failure of a reconcile pass. -/
inductive PassFailure where
  | serialization (message : String)
  | kube (inner : Kube.Failure)
  | finalizer (inner : FinalizerFailure PassFailure)
  | managementContextNotFound (name : String)
  | secretNotFound (name : String)
  | secretKeyNotFound (key name : String)
  | missingCredentials (name : String)
  | invalidCredentials (name : String)
  | management (inner : Management.Failure)
  | invalidTlsSecret (inner : Tls.InvalidSecret)
  | secretReferenced (secret ingress : String)
  | registryNotFound
  | registryConflict (name : String)
  deriving Repr

mutual
/-- The wording of a failure. -/
def PassFailure.message : PassFailure → String
  | .serialization text => "SerializationError: " ++ text
  | .kube inner => "Kube Error: " ++ inner.message
  | .finalizer inner => "Finalizer Error: " ++ FinalizerFailure.message inner
  | .managementContextNotFound name => "The ManagementContext " ++ name ++ " does not exist"
  | .secretNotFound name => "The Secret " ++ name ++ " does not exist"
  | .secretKeyNotFound key name =>
    "The Secret key " ++ key ++ " in " ++ name ++ " does not exist"
  | .missingCredentials name => "The ManagementContext " ++ name ++ " has no credentials"
  | .invalidCredentials name => "The credentials in Secret " ++ name ++ " are not valid UTF-8"
  | .management inner => "Failed to synchronize with the management API: " ++ inner.message
  | .invalidTlsSecret inner => inner.message
  | .secretReferenced secret ingress =>
    "secret " ++ secret ++ " can't be deleted because it has reference to an existing ingress [" ++
      ingress ++ "]"
  | .registryNotFound => "unable to find any pem-registry configmap in the cluster"
  | .registryConflict name =>
    "Gave up updating pem-registry configmap " ++ name ++ " after repeated conflicts"

/-- The wording of a failure under a finalizer, as an event reports it. -/
def FinalizerFailure.message : FinalizerFailure PassFailure → String
  | .applyFailed inner => "failed to apply object: " ++ PassFailure.message inner
  | .cleanupFailed inner => "failed to clean up object: " ++ PassFailure.message inner
  | .addFinalizer inner => "failed to add finalizer: " ++ inner.message
  | .removeFinalizer inner => "failed to remove finalizer: " ++ inner.message
  | .unnamedObject => "object has no name"
  | .invalidFinalizer => "invalid finalizer"
end

namespace PassFailure

/-- The label under which a failure is counted. -/
def label : PassFailure → String
  | .serialization _ => "SerializationError"
  | .kube _ => "KubeError"
  | .finalizer _ => "FinalizerError"
  | .managementContextNotFound _ => "ManagementContextNotFound"
  | .secretNotFound _ => "SecretNotFound"
  | .secretKeyNotFound _ _ => "SecretKeyNotFound"
  | .missingCredentials _ => "MissingCredentials"
  | .invalidCredentials _ => "InvalidCredentials"
  | .management _ => "ApimSync"
  | .invalidTlsSecret _ => "InvalidTlsSecret"
  | .secretReferenced _ _ => "SecretReferenced"
  | .registryNotFound => "PemRegistryNotFound"
  | .registryConflict _ => "RegistryConflict"

end PassFailure

mutual
/-- How to follow up on a failure. Objects that are referred to may simply not exist yet, so a missing
one is worth another attempt; material that is there but unusable is not. -/
def PassFailure.requeue : PassFailure → Requeue
  | .kube inner => if inner.isConflict then .immediately else .withBackoff
  | .registryConflict _ => .immediately
  | .finalizer inner => FinalizerFailure.requeue inner
  | .management inner =>
    match inner.severity with
    | .recoverable => .withBackoff
    | .nonRecoverable => .awaitChange
  | .invalidCredentials _ => .awaitChange
  | .missingCredentials _ => .awaitChange
  | .secretKeyNotFound _ _ => .awaitChange
  | .invalidTlsSecret _ => .awaitChange
  | .secretReferenced _ _ => .awaitChange
  | .managementContextNotFound _ => .withBackoff
  | .secretNotFound _ => .withBackoff
  | .registryNotFound => .withBackoff
  | .serialization _ => .withBackoff

/-- How to follow up on a failure under a finalizer: as on the failure inside it. -/
def FinalizerFailure.requeue : FinalizerFailure PassFailure → Requeue
  | .applyFailed inner => PassFailure.requeue inner
  | .cleanupFailed inner => PassFailure.requeue inner
  | .addFinalizer inner => if inner.isConflict then .immediately else .withBackoff
  | .removeFinalizer inner => if inner.isConflict then .immediately else .withBackoff
  | .unnamedObject => .withBackoff
  | .invalidFinalizer => .withBackoff
end

end GatewayOperator
