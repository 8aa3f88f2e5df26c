import GatewayOperator.Url.Basic

/-!
# Reading URLs

A URL is read as browsers read it: blanks and controls around it and tabs and line ends in it do not
count, a web scheme tolerates any number of slashes of either direction before the authority, the path
is resolved from its dots, and each part is escaped by its own set. A URL of another scheme is read far
enough to tell whether it is one.
-/

set_option autoImplicit false

namespace GatewayOperator.Url

/-- Why a text is no usable URL. -/
inductive Fault where
  /-- The text names no scheme. -/
  | relative
  | host (fault : HostFault)
  | badPort
  /-- The text is a URL, but not one of the web. -/
  | foreignScheme
  deriving DecidableEq, Repr

/-- The wording of a fault. -/
def Fault.message : Fault → String
  | .relative => "relative URL without a base"
  | .host fault => fault.message
  | .badPort => "invalid port number"
  | .foreignScheme => "scheme must be http or https"

/-- Whether a character may stand in a scheme after its first letter. -/
def isSchemeChar (c : Char) : Bool :=
  c.isAlphanum || c = '+' || c = '-' || c = '.'

/-- The scheme in lower case and what follows its colon. -/
def splitScheme? (cs : List Char) : Option (String × List Char) :=
  match cs with
  | [] => none
  | c :: _ =>
    if c.isAlpha then
      match cs.dropWhile isSchemeChar with
      | ':' :: rest => some (String.ofList ((cs.takeWhile isSchemeChar).map Char.toLower), rest)
      | _ => none
    else none

/-- The text that counts: without the blanks and controls around it and the dropped characters in it. -/
def significant (cs : List Char) : List Char :=
  let outer (c : Char) : Bool := c.toNat ≤ 0x20
  (((cs.dropWhile outer).reverse.dropWhile outer).reverse).filter fun c => !isDropped c

/-- Whether a character ends the authority; a backslash does so in a URL of the web. -/
def endsAuthority (web : Bool) (c : Char) : Bool :=
  c = '/' || c = '?' || c = '#' || (web && c = '\\')

/-- The authority and what follows it. -/
def splitAuthority (web : Bool) (cs : List Char) : List Char × List Char :=
  cs.span fun c => !endsAuthority web c

/-- The user information in front of the last at sign, if there is one, and the rest of the authority. -/
def splitUserinfo (authority : List Char) : Option (List Char) × List Char :=
  let back := authority.reverse
  match back.dropWhile (· ≠ '@') with
  | [] => (none, authority)
  | _ :: front => (some front.reverse, (back.takeWhile (· ≠ '@')).reverse)

/-- The user information that a text denotes; without a name and a password there is none. -/
def readUserinfo (cs : List Char) : Option Userinfo :=
  let user := encode inUserinfoSet (cs.takeWhile (· ≠ ':'))
  match cs.dropWhile (· ≠ ':') with
  | _ :: c :: rest => some ⟨user, some (encode inUserinfoSet (c :: rest))⟩
  | _ => if user = [] then none else some ⟨user, none⟩

/-- The host text and what follows it; a colon in brackets belongs to the host. -/
def splitHost : Bool → List Char → List Char × List Char
  | _, [] => ([], [])
  | inBrackets, c :: rest =>
    if c = ':' ∧ !inBrackets then ([], c :: rest)
    else
      let (host, after) := splitHost (if c = '[' then true else if c = ']' then false else inBrackets) rest
      (c :: host, after)

/-- The value of port digits, as long as it stays below 65536. -/
def readPort (cs : List Char) : Except Fault (Option Nat) :=
  if cs = [] then .ok none
  else if cs.all Text.isDigit ∧ Text.decimalValue cs < 65536 then .ok (some (Text.decimalValue cs))
  else .error .badPort

/-- The port behind a host text: none, or digits after a colon. -/
def readPortAfter : List Char → Except Fault (Option Nat)
  | [] => .ok none
  | _ :: digits => readPort digits

/-- The query and the fragment at the end of a URL. -/
def readTail (cs : List Char) : Option (List Char) × Option (List Char) :=
  let fragment (rest : List Char) : Option (List Char) :=
    match rest with
    | [] => none
    | _ :: f => some (encode inFragmentSet f)
  match cs with
  | '?' :: rest =>
    (some (encode inQuerySet (rest.takeWhile (· ≠ '#'))), fragment (rest.dropWhile (· ≠ '#')))
  | _ => (none, fragment cs)

/-- The segments of a raw path: both slashes divide. -/
def rawSegments (cs : List Char) : List (List Char) :=
  Text.splitAt '/' (cs.map fun c => if c = '\\' then '/' else c)

/-- A path with raw segments added, of which the last one ends it. -/
def addSegments (path : List (List Char)) : List (List Char) → List (List Char)
  | [] => path
  | [segment] => addSegment true path (encode inPathSet segment)
  | segment :: rest => addSegments (addSegment false path (encode inPathSet segment)) rest

/-- The path of a web URL from the text behind the authority. -/
def readPath (cs : List Char) : List (List Char) :=
  match cs with
  | [] => [[]]
  | _ :: rest => addSegments [] (rawSegments rest)

/-- The web URL whose text behind the scheme is given. -/
def readWeb (scheme : Scheme) (cs : List Char) : Except Fault Url := do
  let (authority, rest) := splitAuthority true (cs.dropWhile fun c => c = '/' || c = '\\')
  let (info, hostAndPort) := splitUserinfo authority
  let (hostText, portText) := splitHost false hostAndPort
  if hostText = [] then throw (.host .empty)
  let host ← (Host.read hostText).mapError .host
  let port ← readPortAfter portText
  let (pathText, tail) := rest.span fun c => c ≠ '?' && c ≠ '#'
  let (query, fragment) := readTail tail
  return {
    scheme, host, query, fragment
    userinfo := info.bind readUserinfo
    port := if port = some scheme.defaultPort then none else port
    path := readPath pathText }

/-- The check of a URL that is not of the web but has an authority in the manner of the web. -/
def checkForeignWeb (cs : List Char) : Except Fault Unit := do
  let (authority, _) := splitAuthority true (cs.dropWhile fun c => c = '/' || c = '\\')
  let (hostText, portText) := splitHost false (splitUserinfo authority).2
  if hostText = [] then throw (.host .empty)
  let _ ← (Host.read hostText).mapError Fault.host
  let _ ← readPortAfter portText

/-- Whether a text is a drive letter, which no host is. -/
def isDrive : List Char → Bool
  | [letter, mark] => letter.isAlpha && (mark = ':' || mark = '|')
  | _ => false

/-- The check of a file URL: only a host between two slashes and the path can be at fault. -/
def checkFile (cs : List Char) : Except Fault Unit :=
  match cs with
  | a :: b :: rest =>
    if (a = '/' ∨ a = '\\') ∧ (b = '/' ∨ b = '\\') then
      let host := rest.takeWhile fun c => !endsAuthority true c
      if host = [] ∨ isDrive host then .ok ()
      else (Host.read host).mapError Fault.host |>.map fun _ => ()
    else .ok ()
  | _ => .ok ()

/-- The check of a URL of a scheme unknown to the web: only an authority behind two slashes can be at
fault. -/
def checkUnknown (cs : List Char) : Except Fault Unit :=
  match cs with
  | '/' :: '/' :: rest => do
    let (authority, after) := splitAuthority false rest
    let (info, hostAndPort) := splitUserinfo authority
    if info = some [] ∧ hostAndPort = [] ∧ after ≠ [] then throw (.host .empty)
    let (hostText, portText) := splitHost false hostAndPort
    (checkForeignHost hostText).mapError Fault.host
    if hostText = [] ∧ portText ≠ [] then throw (.host .empty)
    let _ ← readPortAfter (portText.takeWhile (· ≠ '\\'))
    if hostText = [] ∧ (info.bind readUserinfo).isSome then throw (.host .empty)
  | _ => .ok ()

/-- The web URL that a text denotes. -/
def read (s : String) : Except Fault Url :=
  match splitScheme? (significant s.toList) with
  | none => .error .relative
  | some (scheme, rest) =>
    if scheme = "http" then readWeb .http rest
    else if scheme = "https" then readWeb .https rest
    else do
      if scheme = "ftp" ∨ scheme = "ws" ∨ scheme = "wss" then checkForeignWeb rest
      else if scheme = "file" then checkFile rest
      else checkUnknown rest
      throw .foreignScheme

end GatewayOperator.Url
