import GatewayOperator.Text.Composition
import GatewayOperator.Url.Domain.Direction
import GatewayOperator.Url.Domain.Folding
import GatewayOperator.Url.Domain.Joiner
import GatewayOperator.Url.Punycode

/-!
# Domain names in ASCII

A domain name is folded, composed and cut into labels. A label with characters outside ASCII is written in
Punycode behind a mark; a label that bears the mark already has to be the encoding of a label that folding
and composition would leave as it is. No label starts with a combining mark, joiners stand in their places,
and each label of a name with letters written from right to left keeps to one direction.
-/

set_option autoImplicit false

namespace GatewayOperator.Url.Domain

/-- A label as people read it and as it is written in ASCII. -/
structure Label where
  shown : List Char
  ascii : List Char

/-- The mark of an encoded label. -/
def encodingMark : List Char := ['x', 'n', '-', '-']

/-- The greatest number of characters in a label that is written in Punycode. -/
def maxEncodedChars : Nat := 1000

/-- The greatest length of the Punycode in a label that bears the mark. -/
def maxEncodingLength : Nat := 2000

/-- Whether a label can stand in a name: no combining mark starts it, and its joiners are in place. -/
def isLabel (cs : List Char) : Bool :=
  !(cs.head?.map Text.isMark).getD false && joinersFit [] cs &&
    (cs.all (·.toNat < 0x80) || cs.length ≤ maxEncodedChars)

/-- Whether folding and composition leave a text as it is. -/
def isStable (cs : List Char) : Bool :=
  cs.all (fun c => fold? c == some [c]) && Text.composed cs == cs

/-- The label that a folded and composed text stands for. -/
def Label.read? (cs : List Char) : Option Label :=
  if encodingMark.isPrefixOf cs then
    let encoding := cs.drop 4
    if encoding.length ≤ maxEncodingLength ∧ encoding.all (·.toNat < 0x80) then
      (Punycode.decode? encoding).bind fun shown =>
        if shown.any (0x80 ≤ ·.toNat) ∧ isStable shown ∧ isLabel shown ∧
            Punycode.encode shown = encoding then some ⟨shown, cs⟩
        else none
    else none
  else if cs.all (·.toNat < 0x80) then some ⟨cs, cs⟩
  else if isLabel cs then some ⟨cs, encodingMark ++ Punycode.encode cs⟩
  else none

/-- Characters that no domain name holds. -/
def isForbidden (c : Char) : Bool :=
  c.toNat ≤ 0x20 || c.toNat = 0x7F ||
    c ∈ ['%', '#', '/', ':', '<', '>', '?', '@', '[', '\\', ']', '^', '|']

/-- A text with each character folded, if each of them can stand in a name. -/
def folded? (cs : List Char) : Option (List Char) :=
  (cs.mapM fold?).map List.flatten

/-- The ASCII form of a domain name. -/
def ascii? (cs : List Char) : Option (List Char) := do
  let labels ← (Text.splitAt '.' (Text.composed (← folded? cs))).mapM Label.read?
  let directions := labels.map fun l => l.shown.map direction
  let name := Text.joinWith '.' (labels.map Label.ascii)
  if name.any isForbidden then none
  else if needsOrder directions.flatten ∧ !directions.all keepsDirection then none
  else some name

end GatewayOperator.Url.Domain
