import GatewayOperator.Json.Basic

/-!
# Schemas

The API server checks the objects of a custom kind against a schema. A schema says what a value is, and
may add a description, a default, and whether null is accepted. In its JSON form the members stand in
the order of their keys.
-/

set_option autoImplicit false

namespace GatewayOperator.Definition

/-- What the values of a custom kind look like. -/
inductive Schema where
  | text
  | integer
  | choice (names : List String)
  | texts
  /-- Any value, of which no part is dropped. -/
  | anything
  | record (required : List String) (properties : List (String × Schema))
  | titled (title : String) (schema : Schema)
  | described (description : String) (schema : Schema)
  | nullable (schema : Schema)
  | defaulted (value : Json) (schema : Schema)

namespace Schema

/-- The member that names the type of a value. -/
def typeMember (name : String) : String × Json := ("type", .string name)

mutual
/-- The members of the JSON form of a schema. -/
def members : Schema → List (String × Json)
  | .text => [typeMember "string"]
  | .integer => [("format", .string "int64"), typeMember "integer"]
  | .choice names => [("enum", Json.strings names), typeMember "string"]
  | .texts => [("items", .object [typeMember "string"]), typeMember "array"]
  | .anything => [("x-kubernetes-preserve-unknown-fields", .bool true)]
  | .record required properties =>
    ("properties", Json.obj (propertyMembers properties)) :: typeMember "object" ::
      (if required = [] then [] else [("required", Json.strings required)])
  | .titled title schema => ("title", .string title) :: members schema
  | .described description schema => ("description", .string description) :: members schema
  | .nullable schema => ("nullable", .bool true) :: members schema
  | .defaulted value schema => ("default", value) :: members schema

/-- The properties of a record in their JSON form. -/
def propertyMembers : List (String × Schema) → List (String × Json)
  | [] => []
  | (name, schema) :: rest => (name, Json.obj (members schema)) :: propertyMembers rest
end

/-- The JSON form of a schema. -/
def encode (schema : Schema) : Json := Json.obj schema.members

end Schema

end GatewayOperator.Definition
