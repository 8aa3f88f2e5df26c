import GatewayOperator.Json.Shape
import GatewayOperator.Resource.Meta

/-!
# Secrets, ingresses and configuration maps

The objects of the cluster itself, as far as the operator reads them. Whatever else they hold is only
checked for its types. The values of a secret's data are bytes; an ingress names its class and the
secrets of its TLS section; a configuration map is written back whole.
-/

set_option autoImplicit false

namespace GatewayOperator.Resource

open GatewayOperator.Json

/-- A secret. -/
structure Secret where
  metadata : Meta
  data : Option (Dict (List UInt8))
  stringData : Option (Dict String)
  deriving Repr

/-- An ingress: the class in its specification, and the secret names in the items of its TLS section.
Without a specification there is no class and the section is empty. -/
structure Ingress where
  metadata : Meta
  className : Option String
  tls : List (Option String)
  deriving Repr

/-- A configuration map. -/
structure ConfigMap where
  metadata : Meta
  binaryData : Option (Dict (List UInt8))
  data : Option (Dict String)
  immutable : Option Bool
  deriving Repr

/-- The shape of a reference to an object of the same namespace. -/
def localReferenceShape : Shape :=
  .record "TypedLocalObjectReference" [("apiGroup", .text), ("kind", .text), ("name", .text)]

/-- The shape of the backend of an ingress. -/
def ingressBackendShape : Shape :=
  .record "IngressBackend" [("resource", localReferenceShape),
    ("service", .record "IngressServiceBackend" [("name", .text),
      ("port", .record "ServiceBackendPort" [("name", .text), ("number", .int32)])])]

/-- The shape of the rules of an ingress. -/
def ingressRulesShape : Shape :=
  .list (.record "IngressRule" [("host", .text),
    ("http", .record "HTTPIngressRuleValue" [("paths",
      .list (.record "HTTPIngressPath" [("backend", ingressBackendShape), ("path", .text),
        ("pathType", .text)]))])])

/-- The shape of the status of an ingress. -/
def ingressStatusShape : Shape :=
  .record "IngressStatus" [("loadBalancer", .record "IngressLoadBalancerStatus" [("ingress",
    .list (.record "IngressLoadBalancerIngress" [("hostname", .text), ("ip", .text),
      ("ports", .list (.record "IngressPortStatus" [("error", .text), ("port", .int32),
        ("protocol", .text)]))]))])]

namespace Secret

/-- Decode a secret. -/
def decode : Json → Decoded Secret :=
  Decode.object "Secret" fun f =>
    f.constant "apiVersion" "v1" *> f.constant "kind" "Secret" *>
      f.member "immutable" Decode.bool *> f.member "type" Decode.text *>
      (mk <$> f.memberOr "metadata" Meta.empty Meta.decode
        <*> f.member "data" (Decode.dict Decode.bytes)
        <*> f.member "stringData" (Decode.dict Decode.text))

end Secret

namespace Ingress

/-- Decode an item of the TLS section to the name of its secret. -/
def decodeTls : Json → Decoded (Option String) :=
  Decode.object "IngressTLS" fun f =>
    f.member "hosts" (Decode.list Decode.text) *> f.member "secretName" Decode.text

/-- Decode the specification of an ingress to its class and its TLS section. -/
def decodeSpec : Json → Decoded (Option String × List (Option String)) :=
  Decode.object "IngressSpec" fun f =>
    f.member "defaultBackend" ingressBackendShape.check *>
      f.member "rules" ingressRulesShape.check *>
      (Prod.mk <$> f.member "ingressClassName" Decode.text
        <*> f.memberOr "tls" [] (Decode.list decodeTls))

/-- Decode an ingress. -/
def decode : Json → Decoded Ingress :=
  Decode.object "Ingress" fun f =>
    f.constant "apiVersion" "networking.k8s.io/v1" *> f.constant "kind" "Ingress" *>
      f.member "status" ingressStatusShape.check *>
      ((fun metadata spec => ⟨metadata, spec.1, spec.2⟩) <$>
        f.memberOr "metadata" Meta.empty Meta.decode <*> f.memberOr "spec" (none, []) decodeSpec)

end Ingress

namespace ConfigMap

/-- Decode a configuration map. -/
def decode : Json → Decoded ConfigMap :=
  Decode.object "ConfigMap" fun f =>
    f.constant "apiVersion" "v1" *> f.constant "kind" "ConfigMap" *>
      (mk <$> f.memberOr "metadata" Meta.empty Meta.decode
        <*> f.member "binaryData" (Decode.dict Decode.bytes)
        <*> f.member "data" (Decode.dict Decode.text)
        <*> f.member "immutable" Decode.bool)

/-- Bytes as a JSON value. -/
def encodeBytes (b : List UInt8) : Json := .string (String.ofList (Text.Base64.encode b))

/-- Encode a configuration map, with its version and kind. -/
def encode (c : ConfigMap) : Json :=
  .object <| [("apiVersion", .string "v1")]
    ++ member? "binaryData" (c.binaryData.map fun d => .object (d.entries.map fun e => (e.1, encodeBytes e.2)))
    ++ member? "data" (c.data.map ofDict)
    ++ member? "immutable" (c.immutable.map .bool)
    ++ [("kind", .string "ConfigMap"), ("metadata", c.metadata.encode)]

end ConfigMap

end GatewayOperator.Resource
