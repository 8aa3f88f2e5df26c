import GatewayOperator.Management.Client

/-!
# Converging the backend

One pass brings the backend in line with a definition, another removes what the definition left there.
Both search by cross ID first, so an existing record is replaced and never duplicated, and only the
record that the lookup named is touched.
-/

set_option autoImplicit false

namespace GatewayOperator.Management

/-- What a successful synchronization did. -/
inductive SyncOutcome where
  /-- The definition is linked to no context, so the backend was not involved. -/
  | localOnly
  | created (record : Record)
  | updated (record : Record)
  deriving DecidableEq, Repr

/-- What a successful deletion did. -/
inductive DeleteOutcome where
  | deleted (id : String)
  /-- No record carries the cross ID. -/
  | alreadyGone
  /-- The definition was never published, or its context is gone. -/
  | notPublished
  deriving DecidableEq, Repr

/-- Converge the backend on a payload: replace the record with its cross ID, or create one. -/
def synchronize (payload : Payload) : Session SyncOutcome := do
  match ← (Call.lookup payload.crossId).perform with
  | some record =>
    return .updated (← (Call.update record.id (payload.withId record.id)).perform)
  | none => return .created (← (Call.create payload).perform)

/-- Remove the record with a cross ID, if there is one. -/
def withdraw (crossId : String) : Session DeleteOutcome := do
  match ← (Call.lookup crossId).perform with
  | some record =>
    (Call.delete record.id).perform
    return .deleted record.id
  | none => return .alreadyGone

end GatewayOperator.Management
