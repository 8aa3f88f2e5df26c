import GatewayOperator.Management.CrossId
import GatewayOperator.Management.HttpClient
import GatewayOperator.Management.Resolution
import GatewayOperator.Reconcile.Decision
import GatewayOperator.Reconcile.Finalizer
import GatewayOperator.Settings

/-!
# Reconciling API definitions

A live definition is synchronized: the pass announces itself in the status if there is news, converges the
backend of the context, records the outcome in the status and tells about it. Every status write names the
version that the pass knows, so a definition that somebody changed meanwhile is not written over. A dying
definition is withdrawn from its backend.
-/

set_option autoImplicit false

namespace GatewayOperator.Reconcile.Api

open GatewayOperator.Resource GatewayOperator.Management

/-- The cross ID of a definition. -/
def crossId (api : ApiDefinition) : String :=
  CrossId.resolve api.metadata.anyNamespace api.metadata.anyName api.spec.crossId

/-- The context a definition points at, which must exist, if it points at one. -/
def context? (api : ApiDefinition) : Pass (Option ManagementContext) :=
  match contextKey api with
  | none => pure none
  | some key => do
    match ← cluster (.context key.1 key.2) with
    | some context => return some context
    | none => throw (.managementContextNotFound key.text)

/-- The credentials of a context. The secret is read only if the context holds none itself. -/
def credentials (context : ManagementContext) : Pass Credentials :=
  match inlineCredentials context with
  | some found => pure found
  | none =>
    match secretKey context with
    | none => throw (.missingCredentials context.metadata.key)
    | some key => do
      match ← cluster (.secret key.1 key.2) with
      | some secret => Program.Pass.ofResult (credentialsOfSecret secret)
      | none => throw (.secretNotFound key.text)

/-- The backend of a context. -/
def backend (settings : Settings) (context : ManagementContext) : Pass Backend := do
  let found ← credentials context
  let spec := context.spec
  Program.Pass.ofResult
    ((Backend.ofBase spec.baseUrl spec.organizationId spec.environmentId found
      settings.requestTimeout).mapError .management)

/-- The kind of failure of a result, if it is one. -/
def failureLabel? {α : Type} : Except Management.Failure α → Option String
  | .ok _ => none
  | .error failure => some failure.label

/-- A session with a backend, which is counted under an operation. -/
def converse {α : Type} (b : Backend) (operation : String) (session : Session α) : Pass α := do
  let result ← (ExceptT.lift ((b.converse session).interpret fun c => Program.call (Call.http c)) :
    Pass (Except Management.Failure α))
  ask (.countRequest operation (failureLabel? result))
  Program.Pass.ofResult (result.mapError .management)

/-- Converge the backend of the context on a definition. -/
def synchronized (settings : Settings) (api : ApiDefinition) : Pass SyncOutcome := do
  match ← context? api with
  | none => return .localOnly
  | some context =>
    let b ← backend settings context
    converse b "sync" (synchronize (Payload.ofSpec api.spec (crossId api) none))

/-- Whether a failure says that the context does not exist. -/
def isContextMissing : PassFailure → Bool
  | .managementContextNotFound _ => true
  | _ => false

/-- Remove from the backend of the context what a definition left there. Without a context there is
nothing to remove. -/
def withdrawn (settings : Settings) (api : ApiDefinition) : Pass DeleteOutcome := do
  match ← Program.Pass.attempt (context? api) with
  | .ok none => return .notPublished
  | .error failure =>
    if isContextMissing failure then return .notPublished else throw failure
  | .ok (some context) =>
    let b ← backend settings context
    converse b "delete" (withdraw (crossId api))

/-- Tell the users about a decision, if there is something to tell. -/
def tell (api : ApiDefinition) : Option Kube.Notice → Pass Unit
  | none => pure ()
  | some notice => publishEvent .apiDefinition api.metadata "Reconcile" notice

/-- Write the status of a definition, and give the version that the write made. -/
def writeStatus (ns : String) (api : ApiDefinition) (version : Option String) (status : ApiStatus) :
    Pass (Option String) :=
  cluster (.writeStatus ns api.metadata.anyName version status)

/-- Announce a pass if there is news, and give the version of the definition from then on. -/
def announced (ns : String) (api : ApiDefinition) : Pass (Option String) :=
  let version := api.metadata.resourceVersion
  if announces api.status api.metadata.generation then
    writeStatus ns api version (announcement api.status (crossId api))
  else pure version

/-- The pass over a live definition. A failed synchronization is no failure of the pass: it is recorded,
counted and followed up. A success is checked again after a while. -/
def applied (settings : Settings) (ns : String) (api : ApiDefinition) : Pass Action := do
  let version ← announced ns api
  let result ← Program.Pass.attempt (synchronized settings api)
  let decision := resolveSync api.status (crossId api) api.metadata.generation result
  let _ ← writeStatus ns api version decision.status
  tell api decision.notice
  match decision.retry with
  | some failure =>
    ask (.countFailure Controller.apiDefinition.kindName api.metadata.anyName failure.label)
    ask (.followUp api.metadata.key failure)
  | none =>
    ask (.settle api.metadata.key)
    return .requeue settings.resync

/-- The pass over a dying definition. -/
def cleanedUp (settings : Settings) (api : ApiDefinition) : Pass Action := do
  let result ← Program.Pass.attempt (withdrawn settings api)
  let decision := resolveDelete result
  tell api decision.notice
  match decision.retry with
  | some failure => throw failure
  | none =>
    ask (.settle api.metadata.key)
    return .awaitChange

/-- The pass over a definition of a namespace. -/
def pass (settings : Settings) (api : ApiDefinition) (ns : String) : Pass Action :=
  reported .apiDefinition api.metadata <|
    guarded .apiDefinition ns api.metadata (applied settings ns api) (cleanedUp settings api)

/-- Attend to a definition. -/
def attend (settings : Settings) (api : ApiDefinition) : Work Ending :=
  attended .apiDefinition api.metadata (pass settings api)

end GatewayOperator.Reconcile.Api
