import GatewayOperator.Kube.Store

/-!
# Interference

A cluster is shared and its server is not always well. An interference awaits requests of one sort, lets
some of them pass and refuses the next ones; and each time it may let another writer change the object
first. Of several interferences the first one that awaits a request decides about it. An interference
whose status code is none of an error does not refuse: the client takes its text for the object.
-/

set_option autoImplicit false

namespace GatewayOperator.Kube

/-- A plan to refuse some requests. -/
structure Interference where
  verb : String
  kind : String
  /-- The name of the object, if only requests for one name are awaited. -/
  name : Option String
  subresource : Option String
  /-- How many requests pass before the first refusal. -/
  skip : Nat
  /-- How many requests are refused. -/
  times : Nat
  message : String
  reason : String
  /-- The status code of the answer. -/
  code : Nat
  /-- The merge patch of another writer. -/
  edit : Option Json
  deriving Repr

namespace Interference

/-- Whether an interference awaits a request. -/
def awaits (i : Interference) (c : Call) : Bool :=
  i.times ≠ 0 && i.verb = c.verb && i.kind = c.kind.plural && i.subresource = c.subresource? &&
    i.name.all fun name => c.target?.any fun t => t.name = name

/-- The interference that strikes a request, and the interferences that are left. -/
def strike (c : Call) : List Interference → Option Interference × List Interference
  | [] => (none, [])
  | i :: rest =>
    if i.awaits c then
      match i.skip with
      | n + 1 => (none, { i with skip := n } :: rest)
      | 0 => (some i, { i with times := i.times - 1 } :: rest)
    else
      let (struck, left) := strike c rest
      (struck, i :: left)

/-- Whether the status code of an answer is that of an error. -/
def refuses (i : Interference) : Bool := 400 ≤ i.code && i.code ≤ 599

/-- The text of an answer. -/
def body (i : Interference) : Json :=
  .object [("code", Json.nat i.code), ("message", .string i.message), ("reason", .string i.reason),
    ("status", .string "Failure")]

/-- The failure of a refused request. -/
def refusal (i : Interference) : Failure := .refused i.message i.reason i.code

/-- The answer to a request that an interference strikes. -/
def answer (i : Interference) : (c : Call) → c.Answer
  | .get _ => if i.refuses then .error i.refusal else .ok i.body
  | .list _ _ _ => if i.refuses then .error i.refusal else .ok i.body
  | .replace _ _ => if i.refuses then .error i.refusal else .ok i.body
  | .mergePatch _ _ => if i.refuses then .error i.refusal else .ok i.body
  | .jsonPatch _ _ => if i.refuses then .error i.refusal else .ok i.body
  | .publish _ => if i.refuses then .error i.refusal else .ok ()

/-- The store after the other writer's change, if there is one and its object exists. -/
def apply (i : Interference) (c : Call) (s : Store) : Store :=
  match i.edit, c.target? with
  | some patch, some t =>
    match s.find? t with
    | some stored => (s.write t (stored.merged patch)).2
    | none => s
  | _, _ => s

end Interference

end GatewayOperator.Kube
