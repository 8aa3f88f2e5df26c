import GatewayOperator.Text.Shown

/-!
# Failures of the cluster

A request to the cluster fails because the API server refuses it, because the server cannot be reached,
because its answer cannot be read, or because no request can be built.
-/

set_option autoImplicit false

namespace GatewayOperator.Kube

/-- A failed request to the cluster. -/
inductive Failure where
  /-- The API server refused the request. -/
  | refused (message reason : String) (code : Nat)
  /-- The API server could not be reached. -/
  | unreachable (message : String)
  /-- The answer could not be read. -/
  | unreadable (message : String)
  /-- No request could be built. -/
  | unbuildable (message : String)
  deriving DecidableEq, Repr

namespace Failure

/-- The refusal of a write that is based on an old version of its object. -/
def isConflict : Failure → Bool
  | .refused _ _ code => code == 409
  | _ => false

/-- The wording of a failure. -/
def message : Failure → String
  | .refused text reason code =>
    "ApiError: " ++ text ++ ": " ++ reason ++ " (ErrorResponse \x7b status: \"Failure\", message: " ++
      Text.quote text ++ ", reason: " ++ Text.quote reason ++ ", code: " ++
      String.ofList (Text.decimal code) ++ " \x7d)"
  | .unreachable text => "ServiceError: " ++ text
  | .unreadable text => "Error deserializing response: " ++ text
  | .unbuildable text => "Failed to build request: " ++ text

end Failure

end GatewayOperator.Kube
