import GatewayOperator.Resource.Core
import GatewayOperator.Resource.Reference

/-!
# Ingresses and their TLS secrets

An ingress asks for a class, in its specification or else in an annotation, and the operator tracks the
ingresses of one class. The secrets of an ingress are those that its TLS section names, each once, in the
order of their first mention.
-/

set_option autoImplicit false

namespace GatewayOperator.Trust

open GatewayOperator.Resource

/-- The annotation and label that names an ingress class. -/
def classKey : String := "kubernetes.io/ingress.class"

/-- The class an ingress asks for. -/
def ingressClass (ingress : Ingress) : Option String :=
  ingress.className.or (ingress.metadata.annotationDict.find? classKey)

/-- Whether an ingress asks for a class. -/
def isTracked (ingress : Ingress) (cls : String) : Bool := ingressClass ingress == some cls

/-- Texts in the order of their first mention, each once. -/
def distinct : List String → List String → List String
  | [], seen => seen
  | x :: xs, seen => distinct xs (if seen.contains x then seen else seen ++ [x])

/-- The names of the secrets in the TLS section of an ingress. -/
def secretNames (ingress : Ingress) : List String :=
  distinct ((ingress.tls.filterMap id).filter fun name => name ≠ "") []

/-- The tracked ingresses of the namespace of a secret that name it. -/
def ingressesOfSecret (ingresses : List Ingress) (secret : Secret) (cls : String) : List Ingress :=
  ingresses.filter fun ingress =>
    ingress.metadata.namespace == secret.metadata.namespace && isTracked ingress cls &&
      (secretNames ingress).contains secret.metadata.anyName

/-- References to the tracked ingresses of the namespace of a secret that name it, if each has a
name. -/
def usersOfSecret (ingresses : List Ingress) (secret : Secret) (cls : String) :
    Option (List Reference) :=
  Reference.ofMetas? ((ingressesOfSecret ingresses secret cls).map Ingress.metadata)

end GatewayOperator.Trust
