import GatewayOperator.PassFailure
import GatewayOperator.Program
import GatewayOperator.Trust.Registry

/-!
# Writing the entry of a registry

Several writers share a registry, each with an entry of its own. A writer replaces the registry as it
last read it, with its entry set and the time of the update. If somebody else was faster the server
refuses the replacement, and the writer reads the registry again and starts over from what it read. After
a few attempts it gives up.
-/

set_option autoImplicit false

namespace GatewayOperator.Trust

open GatewayOperator.Resource

namespace Entry

/-- What the writer of an entry asks. -/
inductive Call where
  | read («namespace» name : String)
  /-- Replace the registry, if it still has the version of the replacement. -/
  | replace (registry : ConfigMap)
  | now
  deriving Repr

/-- What it is answered. -/
abbrev Call.Answer : Call → Type
  | .read _ _ => Except Kube.Failure ConfigMap
  | .replace _ => Except Kube.Failure ConfigMap
  | .now => Instant

/-- A pass of a writer. -/
abbrev Writing := Program.Pass Call.Answer PassFailure

/-- How often a writer tries to replace a registry. -/
def attempts : Nat := 5

/-- Set or remove an entry of a registry, given the registry as it was last read and the number of
attempts that are left. -/
def writeFrom (ns name key : String) (value : Option String) : Nat → ConfigMap → Writing Unit
  | 0, _ => throw (.registryConflict name)
  | left + 1, current => do
    let now ← (Program.Pass.ask Call.now : Writing Instant)
    let replacement := Registry.setEntry current key value now
    match ← (Program.Pass.ask (Call.replace replacement) : Writing (Except _ ConfigMap)) with
    | .ok _ => return ()
    | .error failure =>
      if failure.isConflict then
        match ← (Program.Pass.ask (Call.read ns name) : Writing (Except _ ConfigMap)) with
        | .ok fresh => writeFrom ns name key value left fresh
        | .error failure => throw (.kube failure)
      else throw (.kube failure)

/-- Set or remove an entry of a registry that was read before. -/
def write (registry : ConfigMap) (key : String) (value : Option String) : Writing Unit :=
  writeFrom registry.metadata.anyNamespace registry.metadata.anyName key value attempts registry

end Entry

end GatewayOperator.Trust
