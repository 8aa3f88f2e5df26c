import GatewayOperator.Instant
import GatewayOperator.Tls.Der

/-!
# X.509 certificates

Whether bytes start with a certificate: a sequence of the certified part, an algorithm and a signature.
The certified part holds version, serial number, algorithm, issuer, validity, subject, public key, two
optional identifiers and optional extensions, in this order. The signature is not verified and dates
need only be dates. Elements that follow the expected ones inside a sequence are passed over, except
around extensions, which have to fill their place. The first part at fault is named, unless the bytes end
before it does.
-/

set_option autoImplicit false

namespace GatewayOperator.Tls.Certificate

open Der

/-- What follows the optional version, which is an unsigned integer of four bytes at most. -/
def skipVersion? (bytes : List UInt8) : Option (List UInt8) :=
  if bytes = [] then some []
  else
    (read? bytes).bind fun (e, rest) =>
      if e.tag.number ≠ 0 then some bytes
      else if e.scope ≠ 2 then none
      else
        (expectPlain? integerTag e.contents).bind fun (v, _) =>
          match v.contents with
          | [] => none
          | [b] => if b.toNat < 128 then some rest else none
          | a :: b :: more =>
            if a.toNat = 0 then if 128 ≤ b.toNat ∧ more.length ≤ 3 then some rest else none
            else if a.toNat < 128 ∧ more.length ≤ 2 then some rest
            else none

/-- What follows the element with a tag of the given number. -/
def skip? (number : Nat) (bytes : List UInt8) : Option (List UInt8) :=
  (expect? number bytes).map (·.2)

/-- What follows the serial number, an integer whose length may be indefinite. -/
def skipSerial? (bytes : List UInt8) : Option (List UInt8) :=
  (skipAny? bytes).bind fun (number, rest) => if number = integerTag then some rest else none

/-- What follows an algorithm: a sequence of a name, whatever its tag, and perhaps a parameter. -/
def skipAlgorithm? (bytes : List UInt8) : Option (List UInt8) :=
  (sequence? bytes).bind fun (contents, rest) =>
    (plain? contents).bind fun (_, parameter) =>
      if parameter = [] ∨ (read? parameter).isSome then some rest else none

/-- A number of two decimal digits. -/
def twoDigits? (a b : UInt8) : Option Nat :=
  let digit (c : UInt8) : Bool := 48 ≤ c.toNat && c.toNat ≤ 57
  if digit a && digit b then some ((a.toNat - 48) * 10 + (b.toNat - 48)) else none

/-- Whether the rest of a time is its zone: the letter Z, or a sign, hours and minutes. -/
def isZone : List UInt8 → Bool
  | [0x5A] => true
  | [sign, a, b, c, d] =>
    (sign = 0x2B || sign = 0x2D) &&
      (match twoDigits? a b, twoDigits? c d with
        | some hours, some minutes => hours ≤ 25 && minutes ≤ 59
        | _, _ => false)
  | _ => false

/-- Whether a day exists and a time of day is one. -/
def isMoment (year month day hour minute second : Nat) : Bool :=
  1 ≤ month && month ≤ 12 && 1 ≤ day && day ≤ Instant.daysIn year month && hour ≤ 23 &&
    minute ≤ 59 && second ≤ 59

/-- The month, day, hour and minute at the front of a list of bytes, and what follows them. -/
def readMinute? : List UInt8 → Option ((Nat × Nat × Nat × Nat) × List UInt8)
  | m1 :: m2 :: d1 :: d2 :: h1 :: h2 :: n1 :: n2 :: rest => do
    let month ← twoDigits? m1 m2
    let day ← twoDigits? d1 d2
    let hour ← twoDigits? h1 h2
    let minute ← twoDigits? n1 n2
    return ((month, day, hour, minute), rest)
  | _ => none

/-- The seconds at the front of a list of bytes; a single byte holds none. -/
def readSecond? : List UInt8 → Option (Nat × List UInt8)
  | s1 :: s2 :: rest => (twoDigits? s1 s2).map fun second => (second, rest)
  | rest => some (0, rest)

/-- Whether contents are a time with a year of two digits, from 1950 to 2049. -/
def isShortTime (contents : List UInt8) : Bool :=
  match contents with
  | y1 :: y2 :: rest =>
    (do
      let year ← twoDigits? y1 y2
      let ((month, day, hour, minute), rest) ← readMinute? rest
      if rest = [] then none
      let (second, rest) ← readSecond? rest
      return isMoment (if 50 ≤ year then 1900 + year else 2000 + year) month day hour minute second &&
        isZone rest).getD false
  | _ => false

/-- Whether the rest of a time is the letter Z, after at most three digits of a fraction of a second if a
full stop announces them. -/
def isEnd (bytes : List UInt8) : Bool :=
  let digit (c : UInt8) : Bool := 48 ≤ c.toNat && c.toNat ≤ 57
  match bytes with
  | 0x2E :: fraction =>
    (fraction.takeWhile digit).length ≤ 3 && fraction.dropWhile digit = [0x5A]
  | rest => rest = [0x5A]

/-- Whether contents are a time with a year of four digits, which is in UTC. -/
def isLongTime (contents : List UInt8) : Bool :=
  match contents with
  | y1 :: y2 :: y3 :: y4 :: rest =>
    (do
      let century ← twoDigits? y1 y2
      let year ← twoDigits? y3 y4
      let ((month, day, hour, minute), rest) ← readMinute? rest
      let (second, rest) ← readSecond? rest
      return isMoment (century * 100 + year) month day hour minute second && isEnd rest).getD false
  | _ => false

/-- The number of the tag of a time with a year of two digits. -/
def shortTimeTag : Nat := 23

/-- The number of the tag of a time with a year of four digits. -/
def longTimeTag : Nat := 24

/-- What follows a time. -/
def skipTime? (bytes : List UInt8) : Option (List UInt8) :=
  (read? bytes).bind fun (e, rest) =>
    if (e.tag.number = shortTimeTag ∧ isShortTime e.contents) ∨
        (e.tag.number = longTimeTag ∧ isLongTime e.contents) then some rest else none

/-- What follows the validity, a sequence of two times. -/
def skipValidity? (bytes : List UInt8) : Option (List UInt8) :=
  (sequence? bytes).bind fun (contents, rest) =>
    ((skipTime? contents).bind skipTime?).map fun _ => rest

/-- What follows the public key, a sequence of an algorithm and a bit string. -/
def skipPublicKey? (bytes : List UInt8) : Option (List UInt8) :=
  (sequence? bytes).bind fun (contents, rest) =>
    ((skipAlgorithm? contents).bind skipBits?).map fun _ => rest

/-- What follows an optional identifier: some bytes under a tag of the surrounding sequence. If it is
absent, a whole element or nothing stands in its place. -/
def skipIdentifier? (number : Nat) (bytes : List UInt8) : Option (List UInt8) :=
  if bytes = [] then some []
  else
    (read? bytes).bind fun (e, rest) =>
      if e.tag.number ≠ number then some bytes
      else if e.scope = 2 ∧ e.contents ≠ [] then some rest
      else none

/-- What follows the optional mark of a critical extension. -/
def skipCritical? (bytes : List UInt8) : Option (List UInt8) :=
  (readHeader? bytes).bind fun (_, tag, length, rest) =>
    if tag.number = 1 then if length = 1 ∧ rest ≠ [] then some rest.tail else none else some bytes

/-- What follows an extension: a sequence of a name, whatever its tag, an optional mark and a byte
string. -/
def skipExtension? (bytes : List UInt8) : Option (List UInt8) :=
  (sequence? bytes).bind fun (contents, rest) =>
    (((plain? contents).bind fun r => skipCritical? r.2).bind
      (expectPlain? octetStringTag)).map fun _ => rest

/-- What follows an extension is shorter than the bytes that it was read from, so lists of extensions end. -/
theorem skipExtension?_length {bytes rest : List UInt8} (h : skipExtension? bytes = some rest) :
    rest.length < bytes.length := by
  simp only [skipExtension?, sequence?, Option.bind_eq_some_iff, Option.map_eq_some_iff] at h
  obtain ⟨p, ⟨r, hr, hp⟩, a, _, hrest⟩ := h
  simp only [expect?, Option.bind_eq_some_iff] at hr
  obtain ⟨e, he, hr⟩ := hr
  have hlt := Der.read?_length he
  split at hr
  · cases hr
    subst hp
    simp only at hrest
    subst hrest
    exact hlt
  · cases hr

/-- Whether bytes are extensions and nothing else. -/
def areExtensions (bytes : List UInt8) : Bool :=
  if bytes = [] then true
  else
    match _h : skipExtension? bytes with
    | none => false
    | some rest => areExtensions rest
termination_by bytes.length
decreasing_by exact skipExtension?_length _h

/-- Whether the end of the certified part is in order: nothing, or a tag of number three and one
sequence of extensions behind its length. -/
def endsInExtensions (bytes : List UInt8) : Bool :=
  if bytes = [] then true
  else
    match readHeader? bytes with
    | none => false
    | some (_, tag, _, rest) =>
      tag.number = 3 &&
        (match sequence? rest with
          | some (contents, []) => areExtensions contents
          | _ => false)

/-- A part of a certificate. -/
inductive Part where
  /-- The sequences that hold the other parts. -/
  | outline
  | version
  | serial
  | algorithm
  /-- The name of the issuer or of the subject. -/
  | name
  | validity
  | publicKey
  | issuerId
  | subjectId
  | extensions
  | signature
  deriving DecidableEq, Repr

/-- Why bytes start with no certificate: they end too early, or a part is not as it has to be. -/
inductive Fault where
  | truncated
  | malformed (part : Part)
  deriving DecidableEq, Repr

/-- What is said of bytes without the sequences of a certificate. -/
def faultText : String := "malformed certificate"

/-- What is said of a part that is not as it has to be. -/
def Part.text : Part → String
  | .outline => faultText
  | .version => "invalid version"
  | .serial => "invalid serial"
  | .algorithm => "invalid algorithm identifier"
  | .name => "invalid X.509 name"
  | .validity => "invalid date"
  | .publicKey => "invalid X.509 Subject Public Key Info"
  | .issuerId => "invalid X.509 Issuer Unique ID"
  | .subjectId => "invalid X.509 Subject Unique ID"
  | .extensions => "invalid extensions"
  | .signature => "invalid Signature DER Value"

/-- The wording of a fault. -/
def Fault.text : Fault → String
  | .truncated => "truncated certificate"
  | .malformed part => part.text

/-- The fault of bytes that a part was expected at the front of. -/
def faultAt (part : Part) (bytes : List UInt8) : Fault :=
  if isCut bytes then .truncated else .malformed part

/-- What is read where a part is due, or the fault there. -/
def due {α : Type} (part : Part) (read? : List UInt8 → Option α) (bytes : List UInt8) : Except Fault α :=
  match read? bytes with
  | some r => .ok r
  | none => .error (faultAt part bytes)

/-- The check of the contents of the certified part. -/
def checkCertified (contents : List UInt8) : Except Fault Unit := do
  let rest ← due .version skipVersion? contents
  let rest ← due .serial skipSerial? rest
  let rest ← due .algorithm skipAlgorithm? rest
  let rest ← due .name (skip? sequenceTag) rest
  let rest ← due .validity skipValidity? rest
  let rest ← due .name (skip? sequenceTag) rest
  let rest ← due .publicKey skipPublicKey? rest
  let rest ← due .issuerId (skipIdentifier? 1) rest
  let rest ← due .subjectId (skipIdentifier? 2) rest
  if endsInExtensions rest then return () else throw (faultAt .extensions rest)

/-- The check that bytes start with a certificate. -/
def read (bytes : List UInt8) : Except Fault Unit := do
  let (contents, _) ← due .outline sequence? bytes
  let (certified, rest) ← due .outline sequence? contents
  checkCertified certified
  let rest ← due .algorithm skipAlgorithm? rest
  let _ ← due .signature skipBits? rest
  return ()

end GatewayOperator.Tls.Certificate
