import GatewayOperator.Kube.Event
import GatewayOperator.Management.Convergence
import GatewayOperator.PassFailure

/-!
# Decisions after a pass

The result of a pass over an API definition decides what status to record, what to tell the users, and
whether to try again. A status is `Failed` only where another attempt is pointless, and a finalizer is
released only by a success or by a failure that no further attempt would mend.
-/

set_option autoImplicit false

namespace GatewayOperator.Reconcile

open GatewayOperator.Resource GatewayOperator.Management GatewayOperator.Kube

/-- Status, event and follow-up of a synchronization. -/
structure SyncDecision where
  status : ApiStatus
  notice : Option Notice
  /-- The failure to follow up on. -/
  retry : Option PassFailure
  deriving Repr

/-- Whether a pass announces that it reconciles before it talks to the backend: the specification
changed, or a failed definition is tried again. -/
def announces (previous : Option ApiStatus) (generation : Option Int) : Bool :=
  match previous with
  | none => true
  | some s => s.observedGeneration ≠ generation || s.processingStatus = .failed

/-- The status that announces a pass; it keeps what earlier passes recorded. -/
def announcement (previous : Option ApiStatus) (crossId : String) : ApiStatus where
  id := previous.bind (·.id)
  crossId := some crossId
  processingStatus := .reconciling
  message := none
  observedGeneration := previous.bind (·.observedGeneration)

/-- The status of a completed pass. -/
def completed (id : Option String) (crossId message : String) (generation : Option Int) :
    ApiStatus where
  id := id
  crossId := some crossId
  processingStatus := .completed
  message := some message
  observedGeneration := generation

/-- The decision after a failed synchronization. The id of an earlier pass is kept, so that a definition
that was published once keeps pointing at its record. -/
def resolveFailure (previous : Option ApiStatus) (crossId : String) (generation : Option Int)
    (failure : PassFailure) : SyncDecision :=
  let gaveUp := failure.requeue = .awaitChange
  { status :=
      { id := previous.bind (·.id)
        crossId := some crossId
        processingStatus := if gaveUp then .failed else .reconciling
        message := some failure.message
        observedGeneration := generation }
    notice := some <|
      if gaveUp then ⟨.warning, "Failed", failure.message⟩
      else ⟨.warning, "Reconciling", "Will retry: " ++ failure.message⟩
    retry := some failure }

/-- The decision after a synchronization. -/
def resolveSync (previous : Option ApiStatus) (crossId : String) (generation : Option Int) :
    Except PassFailure SyncOutcome → SyncDecision
  | .ok .localOnly =>
    { status := completed none crossId "API is not linked to a ManagementContext" generation
      notice := none
      retry := none }
  | .ok (.created record) =>
    { status := completed (some record.id) crossId "API created" generation
      notice := some ⟨.normal, "Created",
        "Created API " ++ record.id ++ " with cross ID " ++ crossId⟩
      retry := none }
  | .ok (.updated record) =>
    { status := completed (some record.id) crossId "API updated" generation
      notice := some ⟨.normal, "Updated",
        "Updated API " ++ record.id ++ " with cross ID " ++ crossId⟩
      retry := none }
  | .error failure => resolveFailure previous crossId generation failure

/-- Whether the finalizer may go after a deletion, and what to tell about it. -/
structure DeleteDecision where
  releases : Bool
  notice : Option Notice
  /-- The failure to follow up on while the finalizer is kept. -/
  retry : Option PassFailure
  deriving Repr

/-- The decision after a deletion. A failure that no further attempt would mend releases the finalizer:
the object goes, and a record may be left behind on the backend. -/
def resolveDelete : Except PassFailure DeleteOutcome → DeleteDecision
  | .ok (.deleted id) => ⟨true, some ⟨.normal, "Deleted", "Deleted API " ++ id⟩, none⟩
  | .ok .alreadyGone =>
    ⟨true, some ⟨.normal, "Deleted", "API was already absent from the management API"⟩, none⟩
  | .ok .notPublished => ⟨true, none, none⟩
  | .error failure =>
    if failure.requeue = .awaitChange then
      ⟨true, some ⟨.warning, "DeleteFailed",
        "API may remain on the management API: " ++ failure.message⟩, none⟩
    else ⟨false, none, some failure⟩

end GatewayOperator.Reconcile
