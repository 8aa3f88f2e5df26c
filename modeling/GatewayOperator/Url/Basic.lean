import GatewayOperator.Url.Encoding
import GatewayOperator.Url.Host

/-!
# Web URLs

A URL of the schemes `http` and `https`, with every part in its written form: the parts are escaped
already, and the text of a URL is their concatenation with the delimiters. Path segments and query
pairs are appended as plain text, so no value can reach beyond its own segment or pair, save by the
rules for segments that are dots.
-/

set_option autoImplicit false

namespace GatewayOperator

namespace Url

/-- The schemes under which a management API can be reached. -/
inductive Scheme where
  | http
  | https
  deriving DecidableEq, Repr

/-- The name of a scheme. -/
def Scheme.text : Scheme → String
  | .http => "http"
  | .https => "https"

/-- The port that a URL means when it names none. -/
def Scheme.defaultPort : Scheme → Nat
  | .http => 80
  | .https => 443

/-- A user name and perhaps a password in front of the host, both escaped. -/
structure Userinfo where
  user : List Char
  password : Option (List Char)
  deriving DecidableEq, Repr

end Url

/-- A web URL. The path holds one text per slash; the root is the path of one empty segment. -/
structure Url where
  scheme : Url.Scheme
  userinfo : Option Url.Userinfo
  host : Url.Host
  /-- The port, unless it is the one of the scheme. -/
  port : Option Nat
  path : List (List Char)
  query : Option (List Char)
  fragment : Option (List Char)
  deriving DecidableEq, Repr

namespace Url

/-- The user information with its delimiters. -/
def Userinfo.chars (u : Userinfo) : List Char :=
  u.user ++ (match u.password with
    | none => []
    | some p => ':' :: p) ++ ['@']

/-- A part with the delimiter that announces it. -/
def announced (delimiter : Char) : Option (List Char) → List Char
  | none => []
  | some part => delimiter :: part

/-- The path as it is written. -/
def pathChars (path : List (List Char)) : List Char :=
  path.flatMap ('/' :: ·)

/-- The characters of a URL. -/
def chars (u : Url) : List Char :=
  u.scheme.text.toList ++ "://".toList ++
    (match u.userinfo with
      | none => []
      | some info => info.chars) ++
    u.host.chars ++ announced ':' (u.port.map Text.decimal) ++ pathChars u.path ++
    announced '?' u.query ++ announced '#' u.fragment

/-- The text of a URL. -/
def text (u : Url) : String :=
  String.ofList u.chars

/-- A URL without its user information, as a request for it names it. -/
def withoutUserinfo (u : Url) : Url :=
  { u with userinfo := none }

/-- Whether a written segment means the directory itself. -/
def isDot (segment : List Char) : Bool :=
  segment.map Char.toLower ∈ [['.'], ['%', '2', 'e']]

/-- Whether a written segment means the directory above. -/
def isDoubleDot (segment : List Char) : Bool :=
  segment.map Char.toLower ∈
    [['.', '.'], ['.', '%', '2', 'e'], ['%', '2', 'e', '.'], ['%', '2', 'e', '%', '2', 'e']]

/-- A path with a written segment added. Dots are resolved; at the end of a path they leave an empty
segment. -/
def addSegment (final : Bool) (path : List (List Char)) (segment : List Char) : List (List Char) :=
  if isDoubleDot segment then if final then path.dropLast ++ [[]] else path.dropLast
  else if isDot segment then if final then path ++ [[]] else path
  else path ++ [segment]

/-- Characters that are dropped wherever they stand in a URL. -/
def isDropped (c : Char) : Bool :=
  c = '\t' || c = '\n' || c = '\r'

/-- A path with one plain text appended as a segment. A text that is a dot or two dots is left out. The
root path takes its first segment without another slash. -/
def appendSegment (path : List (List Char)) (segment : String) : List (List Char) :=
  if segment = "." ∨ segment = ".." then path
  else
    addSegment true (if path = [[]] then [] else path)
      (encode inSegmentSet (segment.toList.filter fun c => !isDropped c))

/-- A URL with plain texts appended to its path. -/
def extend (u : Url) (segments : List String) : Url :=
  { u with path := segments.foldl appendSegment u.path }

/-- A URL without the empty segment at the end of its path, if there is more than that. -/
def dropEmptyEnd (u : Url) : Url :=
  if u.path.getLast? = some [] ∧ u.path ≠ [[]] then { u with path := u.path.dropLast } else u

/-- A query with one pair appended. -/
def appendPairTo (query : Option (List Char)) (name value : String) : List Char :=
  let pair := formEncode name ++ '=' :: formEncode value
  match query with
  | none => pair
  | some [] => pair
  | some q => q ++ '&' :: pair

/-- A URL with one pair appended to its query. -/
def appendPair (u : Url) (name value : String) : Url :=
  { u with query := some (appendPairTo u.query name value) }

end Url

end GatewayOperator
