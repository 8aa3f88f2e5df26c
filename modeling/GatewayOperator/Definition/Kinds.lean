import GatewayOperator.Definition.CustomKind
import GatewayOperator.Resource.ApiDefinition

/-!
# The two kinds of the operator

The definitions of `ApiDefinition` and `ManagementContext`, with the descriptions that users read.
-/

set_option autoImplicit false

namespace GatewayOperator.Definition

/-- A text that may be absent. -/
def optionalText (description : String) : Schema :=
  .described description (.nullable .text)

/-- A part that only the backend understands. -/
def passedThrough (description : String) : Schema :=
  .described (description ++ " Passed through to the backend unchanged.") (.nullable .anything)

/-- A reference to another object by name, perhaps in another namespace. -/
def reference (target : String) : Schema :=
  .record ["name"]
    [("name", .described ("The name of the referenced " ++ target) .text),
      ("namespace", optionalText ("The namespace of the referenced " ++ target))]

/-- The column with the age of an object. -/
def ageColumn : Column := ⟨"Age", "date", ".metadata.creationTimestamp", none⟩

/-- The schema of the specification of an API definition. -/
def apiSpec : Schema :=
  .described ("ApiDefinition declares an API that the operator publishes to an API management backend. " ++
    "The definition is correlated with its backend counterpart through a cross ID, which is derived " ++
    "from the namespace and name of the resource unless pinned explicitly.") <|
  .record ["name", "version"]
    [("name", .described "API name" .text),
      ("version", .described "API version" .text),
      ("description", optionalText "API description"),
      ("crossId", optionalText
        ("When promoting an API from one environment to another, this ID identifies the API across " ++
          "those environments. Setting it also allows taking control of an API that already exists on " ++
          "the backend. If empty, a UUID is derived from the namespace and name of the resource.")),
      ("contextRef", .described
        ("A reference to the ManagementContext used to publish this API. If unset, the API is only " ++
          "tracked locally and never sent to a management backend.")
        (.nullable (reference "ManagementContext"))),
      ("state", .described
        ("The state of the API. Setting it to STOPPED makes the API unreachable from the gateway.")
        (.defaulted (.string Resource.ApiState.started.name)
          (.choice (Resource.ApiState.names.map (·.1))))),
      ("lifecycleState", .described "The lifecycle state of the API."
        (.defaulted (.string Resource.LifecycleState.created.name)
          (.choice (Resource.LifecycleState.names.map (·.1))))),
      ("visibility", .described "Whether the API is publicly visible on the portal."
        (.defaulted (.string Resource.Visibility.private.name)
          (.choice (Resource.Visibility.names.map (·.1))))),
      ("tags", .described "Tags of the API" .texts),
      ("labels", .described "Labels of the API" .texts),
      ("proxy", passedThrough "Proxy configuration (virtual hosts, endpoint groups)."),
      ("plans", passedThrough "Plans of the API."),
      ("flows", passedThrough "Flows and policies of the API."),
      ("resources", passedThrough "Resources used by the API policies."),
      ("properties", passedThrough "API properties."),
      ("primaryOwner", passedThrough "The member owning the API on the backend."),
      ("metadata", passedThrough "Metadata entries of the API."),
      ("responseTemplates", passedThrough "Gateway responses per error key and media type.")]

/-- The schema of the status of an API definition. -/
def apiStatus : Schema :=
  .described "Status of the ApiDefinition. This is set and managed automatically. Read-only." <|
  .nullable <| .record ["processingStatus"]
    [("id", optionalText "The ID assigned to the API by the management backend"),
      ("crossId", optionalText "The cross ID used to correlate this resource with the backend"),
      ("processingStatus", .described
        "Where the operator is in bringing the backend in line with this definition."
        (.choice (Resource.ProcessingStatus.names.map (·.1)))),
      ("message", optionalText "Human-readable details about the last reconciliation"),
      ("observedGeneration", .described "The generation of the spec that was last reconciled"
        (.nullable .integer))]

/-- The kind of API definitions. -/
def apiDefinition : CustomKind where
  kind := "ApiDefinition"
  singular := "apidefinition"
  plural := "apidefinitions"
  shortNames := ["apidef"]
  columns :=
    [⟨"Name", "string", ".spec.name", none⟩,
      ⟨"Version", "string", ".spec.version", none⟩,
      ⟨"Status", "string", ".status.processingStatus", none⟩,
      ⟨"Cross ID", "string", ".status.crossId", some 1⟩,
      ageColumn]
  spec := apiSpec
  status := some apiStatus

/-- The schema of the authentication of a management context. -/
def contextAuth : Schema :=
  .described "How to authenticate against the management API" <| .defaulted (.object []) <| .record []
    [("bearerToken", optionalText "A bearer token"),
      ("credentials", .described "Username and password for basic authentication"
        (.nullable (.record ["password", "username"] [("username", .text), ("password", .text)]))),
      ("secretRef", .described
        ("A reference to a Secret containing either a \x60bearerToken\x60 key, or \x60username\x60 and " ++
          "\x60password\x60 keys")
        (.nullable (reference "Secret")))]

/-- The schema of the specification of a management context. -/
def contextSpec : Schema :=
  .described ("ManagementContext holds the location of, and credentials for, one API management " ++
    "backend. It can be shared by any number of ApiDefinitions.") <|
  .record ["baseUrl"]
    [("baseUrl", .described
        "The URL of the management API, eg \x60https://apim.example.com\x60" .text),
      ("organizationId", .described
        "The organization in which APIs are managed. Defaults to \x60DEFAULT\x60."
        (.defaulted (.string "DEFAULT") .text)),
      ("environmentId", .described
        "The environment in which APIs are managed. Defaults to \x60DEFAULT\x60."
        (.defaulted (.string "DEFAULT") .text)),
      ("auth", contextAuth)]

/-- The kind of management contexts. -/
def managementContext : CustomKind where
  kind := "ManagementContext"
  singular := "managementcontext"
  plural := "managementcontexts"
  shortNames := ["mctx"]
  columns := [⟨"Base URL", "string", ".spec.baseUrl", none⟩, ageColumn]
  spec := contextSpec
  status := none

/-- The kinds that are installed, in the order in which they are printed. -/
def kinds : List CustomKind := [managementContext, apiDefinition]

end GatewayOperator.Definition
