/-!
# Events

An event tells the users of the cluster what happened to an object. It is about one object, which it
names by kind, namespace and name, and it says which action of the operator it belongs to.
-/

set_option autoImplicit false

namespace GatewayOperator.Kube

/-- Whether an event reports that all is well. -/
inductive Tone where
  | normal
  | warning
  deriving DecidableEq, Repr

/-- The name of a tone in an event. -/
def Tone.text : Tone → String
  | .normal => "Normal"
  | .warning => "Warning"

/-- What an event tells. -/
structure Notice where
  tone : Tone
  reason : String
  note : String
  deriving DecidableEq, Repr

/-- The object that an event is about. -/
structure Subject where
  kind : String
  «namespace» : Option String
  name : Option String
  deriving DecidableEq, Repr

/-- An event. -/
structure Event where
  notice : Notice
  action : String
  subject : Subject
  deriving DecidableEq, Repr

end GatewayOperator.Kube
