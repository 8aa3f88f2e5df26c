import GatewayOperator.Definition.Schema

/-!
# Custom kinds

The operator brings two kinds of objects of its own. Each is installed into a cluster by a definition,
which names the kind, says what columns a listing shows, and holds the schema of its objects.
-/

set_option autoImplicit false

namespace GatewayOperator.Definition

/-- A column of a listing. -/
structure Column where
  heading : String
  valueType : String
  path : String
  /-- Columns above zero are shown only in wide listings. -/
  priority : Option Nat
  deriving DecidableEq, Repr

/-- The definition of a custom kind. -/
structure CustomKind where
  kind : String
  singular : String
  plural : String
  shortNames : List String
  columns : List Column
  spec : Schema
  /-- The schema of the status; a kind with one keeps it under a path of its own. -/
  status : Option Schema

/-- The API group of the operator's kinds. -/
def group : String := "apim.io"

/-- The version of the operator's kinds. -/
def version : String := "v1alpha1"

/-- The JSON form of a column. -/
def Column.encode (c : Column) : Json :=
  .object <| [("jsonPath", .string c.path), ("name", .string c.heading)] ++
    Json.member? "priority" (c.priority.map Json.nat) ++ [("type", .string c.valueType)]

namespace CustomKind

/-- The schema of the objects of a kind. -/
def schema (k : CustomKind) : Schema :=
  .titled k.kind <|
    .described ("Auto-generated derived type for " ++ k.kind ++ "Spec via \x60CustomResource\x60") <|
      .record ["spec"] <| ("spec", k.spec) ::
        (match k.status with
          | none => []
          | some status => [("status", status)])

/-- The version under which a kind is served. -/
def versionEntry (k : CustomKind) : Json :=
  .object
    [("additionalPrinterColumns", .array (k.columns.map Column.encode)),
      ("name", .string version),
      ("schema", .object [("openAPIV3Schema", k.schema.encode)]),
      ("served", .bool true),
      ("storage", .bool true),
      ("subresources", .object (if k.status.isSome then [("status", .object [])] else []))]

/-- The definition as an object of the cluster. -/
def encode (k : CustomKind) : Json :=
  .object
    [("apiVersion", .string "apiextensions.k8s.io/v1"),
      ("kind", .string "CustomResourceDefinition"),
      ("metadata", .object [("name", .string (k.plural ++ "." ++ group))]),
      ("spec", .object
        [("group", .string group),
          ("names", .object
            [("categories", .array []),
              ("kind", .string k.kind),
              ("plural", .string k.plural),
              ("shortNames", Json.strings k.shortNames),
              ("singular", .string k.singular)]),
          ("scope", .string "Namespaced"),
          ("versions", .array [k.versionEntry])])]

end CustomKind

end GatewayOperator.Definition
