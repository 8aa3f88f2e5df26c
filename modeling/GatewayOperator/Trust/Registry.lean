import GatewayOperator.Instant
import GatewayOperator.Json.Reader
import GatewayOperator.Trust.Ingress

/-!
# PEM registries

A PEM registry is a configuration map that a gateway reads. It lists, per ingress, the TLS secrets that
the gateway has to load: the entry of an ingress has its namespace and name as key, and as value a JSON
array of namespace and name of each secret. An annotation with the time of the last update tells the
gateway to load its trust store again.
-/

set_option autoImplicit false

namespace GatewayOperator.Trust.Registry

open GatewayOperator.Resource

/-- The label that marks a part of the gateway. -/
def componentLabel : String := "apim.io/component"

/-- The value of that label on a registry. -/
def component : String := "pem-registry"

/-- The annotation with the time of the last update. -/
def updateAnnotation : String := "updateTimestamp"

/-- The label selector of every registry. -/
def selector : String := componentLabel ++ "=" ++ component

/-- The key of the entry of an ingress. -/
def entryKey (ns ingress : String) : String := ns ++ "-" ++ ingress

/-- Whether the gateway that reads a registry serves a class. -/
def serves (registry : ConfigMap) (cls : String) : Bool :=
  registry.metadata.labelDict.find? classKey == some cls

/-- The full name of a secret. -/
def fullName (ns secret : String) : String := ns ++ "/" ++ secret

/-- The value of an entry for secrets in their order. -/
def entryValue (ns : String) (secrets : List String) : String :=
  (Json.strings (secrets.map (fullName ns))).render

/-- What follows a start of a text, if the text has that start. -/
def after? : List Char → List Char → Option (List Char)
  | [], rest => some rest
  | p :: ps, c :: cs => if p = c then after? ps cs else none
  | _ :: _, [] => none

/-- The texts that a JSON array holds, or nothing if the text is no array of texts. -/
def listed? (value : String) : Option (List String) :=
  ((Json.parse? value).bind Json.items?).bind fun xs => xs.mapM Json.text?

/-- The name of a secret of a namespace, given its full name. -/
def secretIn? (ns full : String) : Option String :=
  (after? (ns ++ "/").toList full.toList).map String.ofList

/-- The names of the secrets of a namespace in the entry under a key. An entry that cannot be read lists
none. -/
def entrySecrets (registry : ConfigMap) (key ns : String) : List String :=
  match registry.data.bind fun d => d.find? key with
  | none => []
  | some value => ((listed? value).getD []).filterMap (secretIn? ns)

/-- A registry with the value of an entry set or removed, and the time of the update. -/
def setEntry (registry : ConfigMap) (key : String) (value : Option String) (now : Instant) :
    ConfigMap :=
  let annotations := registry.metadata.annotationDict.insert updateAnnotation now.stamp
  let data := match value with
    | some v => some ((registry.data.getD Dict.empty).insert key v)
    | none => registry.data.map fun d => d.erase key
  { registry with
    metadata := { registry.metadata with annotations := some annotations }
    data := data }

end GatewayOperator.Trust.Registry
