import GatewayOperator.Management.Failure
import GatewayOperator.Url.Parser

/-!
# Endpoints of the management API

The management API of one organization and environment lives below a base URL that users give. Its
collection of APIs is the base path with six segments appended; lookups, imports and single records
are further segments and query pairs on the collection. Only the web schemes are accepted.
-/

set_option autoImplicit false

namespace GatewayOperator.Management.Endpoint

/-- A base URL without the slashes at its end. -/
def trimSlashes (base : String) : String :=
  String.ofList ((base.toList.reverse.dropWhile (· = '/')).reverse)

/-- The URL of the collection of APIs. -/
def collection (base organization environment : String) : Except Failure Url :=
  match Url.read (trimSlashes base) with
  | .error fault => .error (.invalidUrl (base ++ ": " ++ fault.message))
  | .ok url =>
    .ok (url.dropEmptyEnd.extend
      ["management", "organizations", organization, "environments", environment, "apis"])

/-- The version of the definitions that are imported. -/
def definitionVersion : String := "2.0.0"

/-- The URL that looks up the record with a cross ID. -/
def lookup (collection : Url) (crossId : String) : Url :=
  collection.appendPair "crossId" crossId

/-- The URL that creates a record. -/
def creation (collection : Url) : Url :=
  (collection.extend ["import"]).appendPair "definitionVersion" definitionVersion

/-- The URL that updates the record with an id. -/
def change (collection : Url) (id : String) : Url :=
  (collection.extend [id, "import"]).appendPair "definitionVersion" definitionVersion

/-- The URL of the record with an id. -/
def record (collection : Url) (id : String) : Url :=
  collection.extend [id]

end GatewayOperator.Management.Endpoint
