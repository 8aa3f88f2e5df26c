import GatewayOperator.Json.Decode

/-!
# JSON patches

A JSON patch is a list of operations on the parts of a value. It applies as a whole or not at all. A
test compares a part with a value, where a part that is missing counts as null; the other operations
put a member, append an item or remove a part.
-/

set_option autoImplicit false

namespace GatewayOperator.Json

/-- The part of a value to which a step leads. -/
def part? : Step → Json → Option Json
  | .key name, .object members => Entries.find? name members
  | .index i, .array items => items[i]?
  | _, _ => none

/-- A value with the part to which a step leads replaced. -/
def withPart (replacement : Json) : Step → Json → Json
  | .key name, .object members => .object (Entries.insert name replacement members)
  | .index i, .array items => .array (items.set i replacement)
  | _, j => j

/-- A value without the part to which a step leads, which must be there. -/
def withoutPart? : Step → Json → Option Json
  | .key name, .object members =>
    (Entries.find? name members).map fun _ => .object (Entries.erase name members)
  | .index i, .array items => items[i]?.map fun _ => .array (items.eraseIdx i)
  | _, _ => none

/-- The part of a value at a path. -/
def at? : List Step → Json → Option Json
  | [], j => some j
  | step :: rest, j => (j.part? step).bind (at? rest)

/-- A value with the part at a path changed, if the path leads somewhere and the change applies. -/
def modify? (change : Json → Option Json) : List Step → Json → Option Json
  | [], j => change j
  | step :: rest, j =>
    ((j.part? step).bind (modify? change rest)).map fun child => withPart child step j

/-- An operation of a JSON patch. -/
inductive Operation where
  /-- The part at a path must equal a value. -/
  | test (path : List Step) (expected : Json)
  /-- Put a member into the object at a path. -/
  | put (path : List Step) (name : String) (value : Json)
  /-- Append an item to the array at a path. -/
  | append (path : List Step) (item : Json)
  /-- Remove a part of the value at a path. -/
  | remove (path : List Step) (part : Step)
  deriving Repr

namespace Operation

/-- A value after an operation, if it applies. -/
def applied? (j : Json) : Operation → Option Json
  | .test path expected => if ((j.at? path).getD .null).same expected then some j else none
  | .put path name value =>
    j.modify? (fun | .object members => some (.object (Entries.insert name value members))
                   | _ => none) path
  | .append path item =>
    j.modify? (fun | .array items => some (.array (items ++ [item]))
                   | _ => none) path
  | .remove path part => j.modify? (withoutPart? part) path

/-- A step as it stands in a pointer. -/
def stepChars : Step → List Char
  | .key name => '/' :: name.toList.flatMap fun c =>
      if c = '~' then ['~', '0'] else if c = '/' then ['~', '1'] else [c]
  | .index i => '/' :: Text.decimal i

/-- The pointer to the part at a path. -/
def pointer (path : List Step) : String := String.ofList (path.flatMap stepChars)

/-- Encode an operation. -/
def encode : Operation → Json
  | .test path expected =>
    .object [("op", .string "test"), ("path", .string (pointer path)), ("value", expected)]
  | .put path name value =>
    .object [("op", .string "add"), ("path", .string (pointer (path ++ [.key name]))),
      ("value", value)]
  | .append path item =>
    .object [("op", .string "add"), ("path", .string (pointer path ++ "/-")), ("value", item)]
  | .remove path part =>
    .object [("op", .string "remove"), ("path", .string (pointer (path ++ [part])))]

end Operation

/-- A value after all operations of a patch, if they apply. -/
def patched? (j : Json) (patch : List Operation) : Option Json :=
  patch.foldlM Operation.applied? j

end GatewayOperator.Json
