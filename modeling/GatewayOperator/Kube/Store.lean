import GatewayOperator.Json.MergePatch
import GatewayOperator.Kube.Call
import GatewayOperator.Text.Decimal

/-!
# The API server

The API server stores objects by kind, namespace and name. Every write gives its object a new version,
and a write that names a version is refused unless the object still has it. An object that is going away
is removed by the first write that leaves it without finalizers.
-/

set_option autoImplicit false

namespace GatewayOperator.Kube

/-- What the API server stores: the last version that it gave out, and the objects in the order of kind,
namespace and name. -/
structure Store where
  version : Nat
  objects : List (Target × Json)
  deriving Repr

/-- The place of an object in the order of the store. -/
def Target.rank (t : Target) : List String := [t.kind.plural, t.namespace, t.name]

namespace Store

/-- A store without objects. -/
def empty : Store := ⟨0, []⟩

/-- Objects with one put in its place. -/
def place (t : Target) (object : Json) : List (Target × Json) → List (Target × Json)
  | [] => [(t, object)]
  | (u, other) :: rest =>
    if u = t then (t, object) :: rest
    else if t.rank < u.rank then (t, object) :: (u, other) :: rest
    else (u, other) :: place t object rest

/-- The object that is stored under a target. -/
def find? (s : Store) (t : Target) : Option Json := s.objects.lookup t

/-- The store without the object of a target. -/
def remove (s : Store) (t : Target) : Store :=
  { s with objects := s.objects.filter fun e => e.1 ≠ t }

/-- The value of a member of an object's metadata. -/
def metadata? (object : Json) (name : String) : Option Json :=
  (object.get? "metadata").bind fun m => m.get? name

/-- An object with a version. -/
def withVersion (object : Json) (version : Nat) : Json :=
  object.merged (.object [("metadata",
    .object [("resourceVersion", .string (String.ofList (Text.decimal version)))])])

/-- Whether an object is going away and nothing holds up its deletion. -/
def isFinished (object : Json) : Bool :=
  let finalizers := ((metadata? object "finalizers").bind Json.items?).getD []
  !((metadata? object "deletionTimestamp").getD .null).isNull && finalizers.isEmpty

/-- Store an object under a new version. -/
def save (s : Store) (t : Target) (object : Json) : Json × Store :=
  let versioned := withVersion object (s.version + 1)
  (versioned, ⟨s.version + 1, place t versioned s.objects⟩)

/-- Write an object: store it, and remove it if it is finished. -/
def write (s : Store) (t : Target) (object : Json) : Json × Store :=
  let (versioned, s) := s.save t object
  (versioned, if isFinished versioned then s.remove t else s)

/-- Whether what a write sends names another version than that of the stored object. -/
def isStale (stored sent : Json) : Bool :=
  match metadata? sent "resourceVersion" with
  | none => false
  | some version =>
    !version.isNull && !version.same ((metadata? stored "resourceVersion").getD .null)

/-- The refusal of a request for an object that does not exist. -/
def notFound (t : Target) : Failure :=
  .refused (t.kind.plural ++ " \"" ++ t.name ++ "\" not found") "NotFound" 404

/-- The refusal of a write that is based on an old version. -/
def conflict : Failure := .refused "the object has been modified" "Conflict" 409

/-- The refusal of a patch that does not apply. -/
def inapplicable : Failure := .refused "the json patch does not apply" "Invalid" 422

/-- Write what becomes of a stored object. -/
def update (s : Store) (t : Target) (change : Json → Except Failure Json) :
    Except Failure Json × Store :=
  match s.find? t with
  | none => (.error (notFound t), s)
  | some stored =>
    match change stored with
    | .error failure => (.error failure, s)
    | .ok object =>
      let (versioned, s) := s.write t object
      (.ok versioned, s)

/-- The stored objects of a kind, of one namespace or of all, that a selector admits. The namespace without
a name stands for all. -/
def listed (s : Store) (kind : Kind) (ns : Option String) (selector : Option Selector) :
    List Json :=
  let admits (object : Json) : Bool :=
    match selector with
    | none => true
    | some l =>
      (((metadata? object "labels").bind fun ls => ls.get? l.label).bind Json.text?) == some l.value
  let inside (t : Target) : Bool := t.kind = kind && ns.all fun n => n = "" || t.namespace = n
  (s.objects.filter fun e => inside e.1 && admits e.2).map Prod.snd

/-- The answer to a request, and the store after it. -/
def respond (s : Store) : (c : Call) → c.Answer × Store
  | .get a =>
    match s.find? a.target with
    | some object => (.ok object, s)
    | none => (.error (notFound a.target), s)
  | .list kind ns selector =>
    (.ok (.object [("items", .array (s.listed kind ns selector))]), s)
  | .replace a object =>
    s.update a.target fun stored => if isStale stored object then .error conflict else .ok object
  | .mergePatch a patch =>
    s.update a.target fun stored =>
      if isStale stored patch then .error conflict else .ok (stored.merged patch)
  | .jsonPatch a patch =>
    s.update a.target fun stored =>
      match stored.patched? patch with
      | some object => .ok object
      | none => .error inapplicable
  | .publish _ => (.ok (), s)

end Store

end GatewayOperator.Kube
