import GatewayOperator.Url.Domain.Name
import GatewayOperator.Url.Encoding

/-!
# Hosts

The host of a web URL is a domain name, an IPv4 address or an IPv6 address in brackets. A name is
resolved from its escapes and written in its ASCII form; a name that ends in a number has to be
an IPv4 address.
-/

set_option autoImplicit false

namespace GatewayOperator.Url

/-- Why a text is no host. -/
inductive HostFault where
  | empty
  | badName
  | badIpv4
  | badIpv6
  /-- A host of a scheme unknown to the web holds a delimiter. -/
  | badCharacter
  deriving DecidableEq, Repr

/-- The wording of a host fault. -/
def HostFault.message : HostFault → String
  | .empty => "empty host"
  | .badName => "invalid international domain name"
  | .badIpv4 => "invalid IPv4 address"
  | .badIpv6 => "invalid IPv6 address"
  | .badCharacter => "invalid domain character"

/-- The host of a web URL. -/
inductive Host where
  | name (text : List Char)
  | ipv4 (address : Nat)
  /-- The eight groups of the address. -/
  | ipv6 (groups : List Nat)
  deriving DecidableEq, Repr

open Text (splitAt joinWith)

namespace Ipv4

/-- The value of a number in base eight, ten or sixteen, if every digit belongs to the base. -/
def digits? (base : Nat) (cs : List Char) : Option Nat :=
  cs.foldl (fun n c => n.bind fun n => (Text.hexValue? c).bind fun d =>
    if d < base then some (n * base + d) else none) (some 0)

/-- One part of an address: `0x` announces base sixteen and a leading zero base eight. -/
def number? : List Char → Option Nat
  | [] => none
  | '0' :: 'x' :: rest => digits? 16 rest
  | '0' :: 'X' :: rest => digits? 16 rest
  | '0' :: c :: rest => digits? 8 (c :: rest)
  | cs => digits? 10 cs

/-- The parts of a name between dots; a dot at the end counts as absent. -/
def parts (cs : List Char) : List (List Char) :=
  let all := splitAt '.' cs
  if all.length ≠ 1 ∧ all.getLast? = some [] then all.dropLast else all

/-- Whether the last part of a name is a number, so that the name has to be an address. -/
def endsInNumber (cs : List Char) : Bool :=
  match (parts cs).getLast? with
  | none => false
  | some part => (part ≠ [] ∧ part.all Text.isDigit) || (number? part).isSome

/-- The address that a name denotes. The last part fills all the bytes that the others leave. -/
def read? (cs : List Char) : Option Nat := do
  let numbers ← (parts cs).mapM number?
  let last ← numbers.getLast?
  let heads := numbers.dropLast
  if heads.length < 4 ∧ heads.all (· < 256) ∧ last < Nat.pow 256 (4 - heads.length) then
    some (heads.foldl (fun n part => n * 256 + part) 0 * Nat.pow 256 (4 - heads.length) + last)
  else none

/-- An address as four decimal numbers. -/
def chars (address : Nat) : List Char :=
  joinWith '.' ([16777216, 65536, 256, 1].map fun unit => Text.decimal (address / unit % 256))

end Ipv4

namespace Ipv6

/-- A group of one to four hexadecimal digits. -/
def group? (cs : List Char) : Option Nat :=
  if 1 ≤ cs.length ∧ cs.length ≤ 4 then Ipv4.digits? 16 cs else none

/-- A byte of an embedded IPv4 address: decimal, without leading zeros. -/
def byte? (cs : List Char) : Option Nat :=
  if cs.all Text.isDigit ∧ cs ≠ [] ∧ (cs.head? ≠ some '0' ∨ cs.length = 1) ∧
      Text.decimalValue cs < 256 then some (Text.decimalValue cs) else none

/-- The two groups of an embedded IPv4 address. -/
def embedded? (cs : List Char) : Option (List Nat) := do
  match ← (splitAt '.' cs).mapM byte? with
  | [a, b, c, d] => some [a * 256 + b, c * 256 + d]
  | _ => none

/-- The groups of one side of the gap; the last one may be an IPv4 address if the side ends the text. -/
def side? (final : Bool) : List (List Char) → Option (List Nat)
  | [] => some []
  | [last] =>
    if final ∧ '.' ∈ last then embedded? last else (group? last).map ([·])
  | first :: rest => do
    let g ← group? first
    let gs ← side? final rest
    some (g :: gs)

/-- The groups of a text between colons; no text has no groups. -/
def groupsOf (cs : List Char) : List (List Char) :=
  if cs = [] then [] else splitAt ':' cs

/-- A text cut at its first double colon. -/
def cutAtGap : List Char → Option (List Char × List Char)
  | ':' :: ':' :: rest => some ([], rest)
  | [] => none
  | c :: rest => (cutAtGap rest).map fun (before, after) => (c :: before, after)

/-- The groups of an address; a double colon stands for at least one group of zero. -/
def read? (cs : List Char) : Option (List Nat) :=
  match cutAtGap cs with
  | none => do
    let groups ← side? true (groupsOf cs)
    if groups.length = 8 then some groups else none
  | some (before, after) => do
    let left ← side? false (groupsOf before)
    let right ← side? true (groupsOf after)
    let given := left.length + right.length
    if given ≤ 7 then some (left ++ List.replicate (8 - given) 0 ++ right) else none

/-- The number of zeros at the start of a list. -/
def zeros (groups : List Nat) : Nat :=
  (groups.takeWhile (· = 0)).length

/-- Where the first of the longest runs of zeros starts, and how long it is. -/
def longestGap (groups : List Nat) : Nat × Nat :=
  (List.range groups.length).foldl (fun best start =>
    let size := zeros (groups.drop start)
    if best.2 < size then (start, size) else best) (0, 0)

/-- An address with its longest run of at least two zeros as a double colon. -/
def chars (groups : List Nat) : List Char :=
  let (start, size) := longestGap groups
  let text (gs : List Nat) : List Char := joinWith ':' (gs.map Text.hex)
  if size < 2 then text groups
  else text (groups.take start) ++ ':' :: ':' :: text (groups.drop (start + size))

end Ipv6

/-- A host as it stands in a URL. -/
def Host.chars : Host → List Char
  | .name text => text
  | .ipv4 address => Ipv4.chars address
  | .ipv6 groups => '[' :: Ipv6.chars groups ++ [']']

/-- The host that a text denotes in a web URL. -/
def Host.read (cs : List Char) : Except HostFault Host :=
  match cs with
  | '[' :: rest =>
    if rest.getLast? = some ']' then
      match Ipv6.read? rest.dropLast with
      | some groups => .ok (.ipv6 groups)
      | none => .error .badIpv6
    else .error .badIpv6
  | _ =>
    match (Text.Utf8.read? (decodeBytes cs)).bind fun s => Domain.ascii? s.toList with
    | none => .error .badName
    | some [] => .error .empty
    | some domain =>
      if Ipv4.endsInNumber domain then
        match Ipv4.read? domain with
        | some address => .ok (.ipv4 address)
        | none => .error .badIpv4
      else .ok (.name domain)

/-- The check of a host under a scheme unknown to the web: an address in brackets or a text without
delimiters. -/
def checkForeignHost (cs : List Char) : Except HostFault Unit :=
  match cs with
  | '[' :: rest =>
    if rest.getLast? = some ']' ∧ (Ipv6.read? rest.dropLast).isSome then .ok () else .error .badIpv6
  | _ =>
    if cs.any fun c => c.toNat = 0 ||
        c ∈ [' ', '#', '/', ':', '<', '>', '?', '@', '[', '\\', ']', '^', '|'] then
      .error .badCharacter
    else .ok ()

end GatewayOperator.Url
