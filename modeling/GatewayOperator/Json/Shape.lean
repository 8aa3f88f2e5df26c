import GatewayOperator.Json.Decode

/-!
# Shapes of records

Parts of an object that the operator never looks at must still have the right types. A shape says what
these are, and checking a value against a shape decodes it without keeping anything. Fields of a record
may be absent or null, and unknown fields are ignored.
-/

set_option autoImplicit false

namespace GatewayOperator.Json

/-- The type of a value. -/
inductive Shape where
  | text
  | int32
  | int64
  | bool
  | list (item : Shape)
  | record (name : String) (fields : List (String × Shape))

namespace Shape

mutual
/-- Check a value against a shape. -/
def check : Shape → Json → Decoded Unit
  | .text, j => (Decode.text j).map fun _ => ()
  | .int32, j => (Decode.int32 j).map fun _ => ()
  | .int64, j => (Decode.int64 j).map fun _ => ()
  | .bool, j => (Decode.bool j).map fun _ => ()
  | .list item, j => (Decode.list (check item) j).map fun _ => ()
  | .record name fields, j => Decode.object name (checkFields fields) j

/-- Check the fields of a record that are present. -/
def checkFields : List (String × Shape) → Decode.Fields → Reading Unit
  | [], _ => .value ()
  | (name, shape) :: rest, f => f.member name (check shape) *> checkFields rest f
end

end Shape

end GatewayOperator.Json
