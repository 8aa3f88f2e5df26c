import GatewayOperator.Json.Patch
import GatewayOperator.Kube.Address
import GatewayOperator.Kube.Event

/-!
# Requests to the cluster

The API server keeps objects of several kinds as JSON. A client reads one or lists many, replaces one, or
sends a patch of either form; and it publishes events. A list is an object with the listed ones as items.
-/

set_option autoImplicit false

namespace GatewayOperator.Kube

/-- A label that an object must carry. -/
structure Selector where
  label : String
  value : String
  deriving DecidableEq, Repr

/-- The selector as it stands in a request. -/
def Selector.text (s : Selector) : String := s.label ++ "=" ++ s.value

/-- A request to the API server. -/
inductive Call where
  | get (address : Address)
  /-- List the objects of a kind, in one namespace or in all. -/
  | list (kind : Kind) («namespace» : Option String) (selector : Option Selector)
  | replace (address : Address) (object : Json)
  /-- Merge a patch into an object. -/
  | mergePatch (address : Address) (patch : Json)
  | jsonPatch (address : Address) (patch : List Json.Operation)
  | publish (event : Event)
  deriving Repr

namespace Call

/-- What a successful request gives. -/
abbrev Result : Call → Type
  | .get _ => Json
  | .list _ _ _ => Json
  | .replace _ _ => Json
  | .mergePatch _ _ => Json
  | .jsonPatch _ _ => Json
  | .publish _ => Unit

/-- What a request gives. -/
abbrev Answer (c : Call) : Type := Except Failure c.Result

/-- The verb of a request. -/
def verb : Call → String
  | .get _ => "get"
  | .list _ _ _ => "list"
  | .replace _ _ => "replace"
  | .mergePatch _ _ => "merge-patch"
  | .jsonPatch _ _ => "json-patch"
  | .publish _ => "create"

/-- The address of a request, if it is about a single object. -/
def address? : Call → Option Address
  | .get a => some a
  | .list _ _ _ => none
  | .replace a _ => some a
  | .mergePatch a _ => some a
  | .jsonPatch a _ => some a
  | .publish _ => none

/-- The kind that a request is about. -/
def kind : Call → Kind
  | .get a => a.target.kind
  | .list k _ _ => k
  | .replace a _ => a.target.kind
  | .mergePatch a _ => a.target.kind
  | .jsonPatch a _ => a.target.kind
  | .publish _ => .events

/-- The object that a request is about, if it is about a single one. -/
def target? (c : Call) : Option Target := c.address?.map Address.target

/-- The part of an object that a request is sent to, if it is not the whole. -/
def subresource? (c : Call) : Option String := c.address?.bind Address.part

/-- The path of a request. -/
def path : Call → String
  | .get a => a.text
  | .list k ns _ => pathText [k.plural, ns.getD ""]
  | .replace a _ => a.text
  | .mergePatch a _ => a.text
  | .jsonPatch a _ => a.text
  | .publish e => pathText [Kind.events.plural, e.subject.namespace.getD ""]

/-- The selector of a request. -/
def selector? : Call → Option Selector
  | .list _ _ s => s
  | _ => none

/-- The body of a request; an event has a form of its own. -/
def body? : Call → Option Json
  | .replace _ object => some object
  | .mergePatch _ patch => some patch
  | .jsonPatch _ patch => some (.array (patch.map Json.Operation.encode))
  | _ => none

end Call

end GatewayOperator.Kube
