import GatewayOperator.Json.Basic

/-!
# Merge patches

A merge patch resembles the value that it changes. A member of the patch replaces the member of the same
key, null removes it, and an object is merged into it; a patch that is no object replaces the whole
value.
-/

set_option autoImplicit false

namespace GatewayOperator.Json

/-- The members of an object; any other value has none. -/
def membersOf : Json → List (String × Json)
  | .object members => members
  | _ => []

/-- Whether a value is null. -/
def isNull : Json → Bool
  | .null => true
  | _ => false

mutual
/-- A value changed by a merge patch. -/
def merged (target : Json) : Json → Json
  | .object patch => .object (mergedMembers target.membersOf patch)
  | patch => patch

/-- The members of an object changed by the members of a merge patch. -/
def mergedMembers (members : List (String × Json)) :
    List (String × Json) → List (String × Json)
  | [] => members
  | (key, value) :: rest =>
    if value.isNull then mergedMembers (Entries.erase key members) rest
    else
      mergedMembers
        (Entries.insert key (merged ((Entries.find? key members).getD .null) value) members) rest
end

end GatewayOperator.Json
