import GatewayOperator.Cluster.Call
import GatewayOperator.Trust.Registry

/-!
# Calls of the cluster as requests

Each call of the operator is one request to the API server, and its result is decoded from the answer.
An object without a name cannot be asked for, nor one whose name cannot stand in a path, so no request is
made then. The finalizers and the status
of an object are written as merge patches that name the version at which the object was read; a version
that is not known is written as null, and then any version will do.
-/

set_option autoImplicit false

namespace GatewayOperator.Cluster

open GatewayOperator.Resource

/-- A pass over requests. -/
abbrev Wire := Program.Pass Kube.Call.Answer Kube.Failure

/-- The pass of a single request. -/
def request (c : Kube.Call) : Wire c.Result := ExceptT.mk (Program.call c)

/-- What a value is decoded to. -/
def decoded {α : Type} (decode : Json → Json.Decoded α) (j : Json) : Except Kube.Failure α :=
  match decode j with
  | .ok a => .ok a
  | .error fault => .error (.unreadable (fault.message j))

/-- The failure to build a request for an object without a name. -/
def unnamed : Kube.Failure :=
  .unbuildable "failed to validate request: A non-empty name is required"

/-- The address of an object or of a part of it. The object must have a name. -/
def address (kind : Kube.Kind) (ns name : String) (part : Option String) : Wire Kube.Address :=
  Program.Pass.ofResult (if name = "" then .error unnamed else Kube.Address.ofName kind ns name part)

/-- Read an object. -/
def get {α : Type} (kind : Kube.Kind) (ns name : String) (decode : Json → Json.Decoded α) :
    Wire α := do
  let a ← address kind ns name none
  let object ← request (.get a)
  Program.Pass.ofResult (decoded decode object)

/-- Whether a failure says that there is no such object. -/
def isMissing : Kube.Failure → Bool
  | .refused _ reason _ => reason == "NotFound"
  | _ => false

/-- Read an object, if it exists. -/
def get? {α : Type} (kind : Kube.Kind) (ns name : String) (decode : Json → Json.Decoded α) :
    Wire (Option α) :=
  ExceptT.mk do
    match ← (get kind ns name decode).run with
    | .ok a => return .ok (some a)
    | .error failure => return if isMissing failure then .ok none else .error failure

/-- Decode a list of objects. -/
def items {α : Type} (decode : Json → Json.Decoded α) : Json → Json.Decoded (List α) :=
  Json.Decode.object "struct ObjectList" fun f => f.required 0 "items" (Json.Decode.list decode)

/-- The check that requests can be made in a namespace. -/
def inNamespace (ns : String) : Wire Unit :=
  if Kube.fitsNamespace ns then pure () else throw Kube.forbiddenCharacter

/-- List objects. -/
def list {α : Type} (kind : Kube.Kind) (ns : Option String) (selector : Option Kube.Selector)
    (decode : Json → Json.Decoded α) : Wire (List α) := do
  inNamespace (ns.getD "")
  let found ← request (.list kind ns selector)
  Program.Pass.ofResult (decoded (items decode) found)

/-- Merge a patch into an object or a part of it. -/
def merge {α : Type} (kind : Kube.Kind) (ns name : String) (part : Option String) (patch : Json)
    (decode : Json → Json.Decoded α) : Wire α := do
  let a ← address kind ns name part
  let object ← request (.mergePatch a patch)
  Program.Pass.ofResult (decoded decode object)

/-- A version in a patch. -/
def versionMember (version : Option String) : String × Json :=
  ("resourceVersion", Json.orNull (version.map .string))

/-- The merge patch that sets the finalizers of an object read at a version. -/
def finalizerPatch (version : Option String) (finalizers : List String) : Json :=
  .object [("metadata",
    .object [("finalizers", Json.strings finalizers), versionMember version])]

/-- The merge patch that writes a status. Parts that the status lacks are null, so that the merge clears
them. -/
def statusPatch (version : Option String) (s : ApiStatus) : Json :=
  .object [("metadata", .object [versionMember version]),
    ("status", .object [("crossId", Json.orNull (s.crossId.map .string)),
      ("id", Json.orNull (s.id.map .string)), ("message", Json.orNull (s.message.map .string)),
      ("observedGeneration", Json.orNull (s.observedGeneration.map Json.int)),
      ("processingStatus", .string s.processingStatus.name)])]

/-- The path of the finalizers of an object. -/
def finalizersPath : List Json.Step := [.key "metadata", .key "finalizers"]

/-- The operations of a change to finalizers: first the test that they are as they were seen. An object
seen without finalizers must have none at all. -/
def FinalizerChange.operations : FinalizerChange → List Json.Operation
  | .attach [] finalizer =>
    [.test finalizersPath .null,
      .put [.key "metadata"] "finalizers" (Json.strings [finalizer])]
  | .attach seen finalizer =>
    [.test finalizersPath (Json.strings seen), .append finalizersPath (.string finalizer)]
  | .detach index finalizer =>
    [.test (finalizersPath ++ [.index index]) (.string finalizer),
      .remove finalizersPath (.index index)]

/-- The check that the answer to a change is an object of the right form. -/
def readable (c : Controller) (j : Json) : Except Kube.Failure Unit :=
  match c with
  | .apiDefinition => (decoded ApiDefinition.decode j).map fun _ => ()
  | .ingress => (decoded Ingress.decode j).map fun _ => ()

/-- The selector of registries. -/
def registrySelector : Kube.Selector := ⟨Trust.Registry.componentLabel, Trust.Registry.component⟩

namespace Call

/-- The request of a call, and the reading of its answer. -/
def wire : (c : Call) → Wire c.Result
  | .context ns name => get? .managementContexts ns name ManagementContext.decode
  | .secret ns name => get? .secrets ns name Secret.decode
  | .ingresses ns => list .ingresses (some ns) none Ingress.decode
  | .registries => list .configMaps none (some registrySelector) ConfigMap.decode
  | .registry ns name => get .configMaps ns name ConfigMap.decode
  | .replaceRegistry r => do
    let a ← address .configMaps r.metadata.anyNamespace r.metadata.anyName none
    let object ← request (.replace a r.encode)
    Program.Pass.ofResult (decoded ConfigMap.decode object)
  | .setSecretFinalizers m finalizers => do
    let _ ← merge .secrets m.anyNamespace m.anyName none
      (finalizerPatch m.resourceVersion finalizers) Secret.decode
  | .setIngressFinalizers m finalizers => do
    let _ ← merge .ingresses m.anyNamespace m.anyName none
      (finalizerPatch m.resourceVersion finalizers) Ingress.decode
  | .changeFinalizers controller ns name change => do
    let a ← address controller.kind ns name none
    let object ← request (.jsonPatch a change.operations)
    Program.Pass.ofResult (readable controller object)
  | .writeStatus ns name version status => do
    let api ← merge .apiDefinitions ns name (some Kube.statusPart) (statusPatch version status)
      ApiDefinition.decode
    return api.metadata.resourceVersion
  | .publish event => do
    inNamespace (event.subject.namespace.getD "")
    request (.publish event)

/-- A call as a program over requests. -/
def perform (c : Call) : Program Kube.Call.Answer c.Answer := c.wire.run

end Call

end GatewayOperator.Cluster
