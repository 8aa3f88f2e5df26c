import GatewayOperator.Json.Decode

/-!
# Object metadata

What every object of the cluster carries: its name and namespace, its labels and annotations, the
finalizers that hold up its deletion, the version it was read at, and bookkeeping of the API server that
the operator hands back unchanged.
-/

set_option autoImplicit false

namespace GatewayOperator.Resource

/-- The owner of an object. -/
structure Owner where
  apiVersion : String
  blockOwnerDeletion : Option Bool
  controller : Option Bool
  kind : String
  name : String
  uid : String
  deriving DecidableEq, Repr

/-- Which fields of an object somebody manages. -/
structure ManagedFields where
  apiVersion : Option String
  fieldsType : Option String
  fieldsV1 : Option Json
  manager : Option String
  operation : Option String
  subresource : Option String
  time : Option Instant
  deriving Repr

/-- The metadata of an object. Every part may be absent. -/
structure Meta where
  annotations : Option (Dict String)
  creationTimestamp : Option Instant
  deletionGracePeriodSeconds : Option Int
  deletionTimestamp : Option Instant
  finalizers : Option (List String)
  generateName : Option String
  generation : Option Int
  labels : Option (Dict String)
  managedFields : Option (List ManagedFields)
  name : Option String
  «namespace» : Option String
  ownerReferences : Option (List Owner)
  resourceVersion : Option String
  selfLink : Option String
  uid : Option String
  deriving Repr

namespace Meta

/-- Metadata without any part. -/
def empty : Meta :=
  ⟨none, none, none, none, none, none, none, none, none, none, none, none, none, none, none⟩

instance : Inhabited Meta := ⟨empty⟩

/-- The name of the object, or the one it is generated from, or nothing. -/
def anyName (m : Meta) : String := (m.name.or m.generateName).getD ""

/-- The namespace of the object, or nothing. -/
def anyNamespace (m : Meta) : String := m.namespace.getD ""

/-- Namespace and name, as one key. -/
def key (m : Meta) : String := m.anyNamespace ++ "/" ++ m.anyName

/-- The finalizers that hold up the deletion of the object. -/
def finalizerList (m : Meta) : List String := m.finalizers.getD []

/-- Whether a finalizer holds up the deletion of the object. -/
def hasFinalizer (m : Meta) (f : String) : Bool := m.finalizerList.contains f

/-- Whether the object is going away. -/
def isDeleting (m : Meta) : Bool := m.deletionTimestamp.isSome

/-- The labels of the object. -/
def labelDict (m : Meta) : Dict String := m.labels.getD Dict.empty

/-- The annotations of the object. -/
def annotationDict (m : Meta) : Dict String := m.annotations.getD Dict.empty

end Meta

open GatewayOperator.Json

/-- Decode an owner. -/
def Owner.decode : Json → Decoded Owner :=
  Decode.object "OwnerReference" fun f =>
    mk <$> f.memberOr "apiVersion" "" Decode.text
      <*> f.member "blockOwnerDeletion" Decode.bool
      <*> f.member "controller" Decode.bool
      <*> f.memberOr "kind" "" Decode.text
      <*> f.memberOr "name" "" Decode.text
      <*> f.memberOr "uid" "" Decode.text

/-- Encode an owner. -/
def Owner.encode (o : Owner) : Json :=
  .object <| [("apiVersion", .string o.apiVersion)]
    ++ member? "blockOwnerDeletion" (o.blockOwnerDeletion.map .bool)
    ++ member? "controller" (o.controller.map .bool)
    ++ [("kind", .string o.kind), ("name", .string o.name), ("uid", .string o.uid)]

/-- Decode an entry of managed fields. -/
def ManagedFields.decode : Json → Decoded ManagedFields :=
  Decode.object "ManagedFieldsEntry" fun f =>
    mk <$> f.member "apiVersion" Decode.text
      <*> f.member "fieldsType" Decode.text
      <*> f.member "fieldsV1" Decode.any
      <*> f.member "manager" Decode.text
      <*> f.member "operation" Decode.text
      <*> f.member "subresource" Decode.text
      <*> f.member "time" Decode.instant

/-- Encode an entry of managed fields. -/
def ManagedFields.encode (m : ManagedFields) : Json :=
  .object <| member? "apiVersion" (m.apiVersion.map .string)
    ++ member? "fieldsType" (m.fieldsType.map .string)
    ++ member? "fieldsV1" m.fieldsV1
    ++ member? "manager" (m.manager.map .string)
    ++ member? "operation" (m.operation.map .string)
    ++ member? "subresource" (m.subresource.map .string)
    ++ member? "time" (m.time.map fun t => .string t.stamp)

namespace Meta

/-- Decode metadata. -/
def decode : Json → Decoded Meta :=
  Decode.object "ObjectMeta" fun f =>
    mk <$> f.member "annotations" (Decode.dict Decode.text)
      <*> f.member "creationTimestamp" Decode.instant
      <*> f.member "deletionGracePeriodSeconds" Decode.int64
      <*> f.member "deletionTimestamp" Decode.instant
      <*> f.member "finalizers" (Decode.list Decode.text)
      <*> f.member "generateName" Decode.text
      <*> f.member "generation" Decode.int64
      <*> f.member "labels" (Decode.dict Decode.text)
      <*> f.member "managedFields" (Decode.list ManagedFields.decode)
      <*> f.member "name" Decode.text
      <*> f.member "namespace" Decode.text
      <*> f.member "ownerReferences" (Decode.list Owner.decode)
      <*> f.member "resourceVersion" Decode.text
      <*> f.member "selfLink" Decode.text
      <*> f.member "uid" Decode.text

/-- Encode metadata. Absent parts are left out. -/
def encode (m : Meta) : Json :=
  .object <| member? "annotations" (m.annotations.map ofDict)
    ++ member? "creationTimestamp" (m.creationTimestamp.map fun t => .string t.stamp)
    ++ member? "deletionGracePeriodSeconds" (m.deletionGracePeriodSeconds.map Json.int)
    ++ member? "deletionTimestamp" (m.deletionTimestamp.map fun t => .string t.stamp)
    ++ member? "finalizers" (m.finalizers.map Json.strings)
    ++ member? "generateName" (m.generateName.map .string)
    ++ member? "generation" (m.generation.map Json.int)
    ++ member? "labels" (m.labels.map ofDict)
    ++ member? "managedFields" (m.managedFields.map fun ms => .array (ms.map ManagedFields.encode))
    ++ member? "name" (m.name.map .string)
    ++ member? "namespace" (m.namespace.map .string)
    ++ member? "ownerReferences" (m.ownerReferences.map fun os => .array (os.map Owner.encode))
    ++ member? "resourceVersion" (m.resourceVersion.map .string)
    ++ member? "selfLink" (m.selfLink.map .string)
    ++ member? "uid" (m.uid.map .string)

end Meta

end GatewayOperator.Resource
