import GatewayOperator.Kube.Failure

/-!
# Addresses of objects

An object is known by its kind, namespace and name. A request names them, and perhaps a part of the
object, in the path of its URL, where a name stands as it is. A name with a character that no path can
hold makes the request impossible; and a delimiter in a name ends it there, so that the server looks for
another object.
-/

set_option autoImplicit false

namespace GatewayOperator.Kube

/-- The kinds of objects that the operator deals with. -/
inductive Kind where
  | apiDefinitions
  | managementContexts
  | secrets
  | ingresses
  | configMaps
  | events
  deriving DecidableEq, Repr

namespace Kind

/-- The name of a kind in a request. -/
def plural : Kind → String
  | .apiDefinitions => "apidefinitions"
  | .managementContexts => "managementcontexts"
  | .secrets => "secrets"
  | .ingresses => "ingresses"
  | .configMaps => "configmaps"
  | .events => "events"

/-- All kinds. -/
def all : List Kind :=
  [.apiDefinitions, .managementContexts, .secrets, .ingresses, .configMaps, .events]

/-- The kind with a name. -/
def ofPlural? (name : String) : Option Kind := all.find? fun k => k.plural = name

end Kind

/-- An object by kind, namespace and name. -/
structure Target where
  kind : Kind
  «namespace» : String
  name : String
  deriving DecidableEq, Repr

/-- Parts of a path, without the empty ones. -/
def pathText (parts : List String) : String :=
  String.intercalate "/" (parts.filter fun p => p ≠ "")

/-- The path of an object. -/
def Target.text (t : Target) : String := pathText [t.kind.plural, t.namespace, t.name]

/-- An object, or a part of it. -/
structure Address where
  target : Target
  part : Option String
  deriving DecidableEq, Repr

/-- The path of an object or of a part of it. -/
def Address.text (a : Address) : String := pathText [a.target.text, a.part.getD ""]

/-- The part of an object that holds its status. -/
def statusPart : String := "status"

/-- The failure to build a request whose path holds a forbidden character. -/
def forbiddenCharacter : Failure :=
  .unbuildable "failed to build request: invalid uri character"

/-- Whether a character can stand in a query. -/
def fitsQuery (c : Char) : Bool :=
  let n := c.toNat
  n = 0x21 || (0x24 ≤ n && n ≤ 0x3B) || n = 0x3D || 0x3F ≤ n

/-- Whether a character can stand in a path. -/
def fitsPath (c : Char) : Bool :=
  c = '"' || (fitsQuery c && c ≠ '?' && c ≠ '\x60')

/-- Whether a text can follow a path before it: characters of the path, then perhaps a query, then perhaps
a fragment, in which anything may stand. -/
def fitsUrl : List Char → Bool
  | [] => true
  | '#' :: _ => true
  | '?' :: rest => (rest.takeWhile (· ≠ '#')).all fitsQuery
  | c :: rest => fitsPath c && fitsUrl rest

/-- Whether an object in this namespace can be addressed. -/
def fitsNamespace (ns : String) : Bool := fitsUrl ns.toList

/-- A text up to its first character of some. -/
def upTo (ends : List Char) (cs : List Char) : List Char :=
  cs.takeWhile fun c => c ∉ ends

/-- The address that the server reads from the path of an object with a name, or of a part of it. -/
def Address.ofName (kind : Kind) (ns name : String) (part : Option String) :
    Except Failure Address :=
  let rest := name.toList ++ (match part with
    | none => []
    | some p => '/' :: p.toList)
  if !fitsNamespace ns || !fitsUrl rest then .error forbiddenCharacter
  else
    let path := upTo ['?', '#'] rest
    let target : Target := ⟨kind, ns, String.ofList (upTo ['/'] path)⟩
    match path.dropWhile (· ≠ '/') with
    | [] => .ok ⟨target, none⟩
    | _ :: p => .ok ⟨target, some (String.ofList (upTo ['/'] p))⟩

end GatewayOperator.Kube
