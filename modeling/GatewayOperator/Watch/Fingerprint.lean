import GatewayOperator.Resource.Core

/-!
# Fingerprints of changes

A watch passes an object on only if its fingerprint changed. The fingerprint is a digest of a sequence of
bytes, and the sequence is what is given here: everything a pass over the object reacts to, each part in
a form that says where it ends. A text ends with the byte 0xFF, which no text contains; a list, a
dictionary and a run of bytes start with their length; an optional part starts with whether it is there.
-/

set_option autoImplicit false

namespace GatewayOperator.Watch

open GatewayOperator.Resource

/-- A number in eight bytes, the least significant first; a negative one in two's complement. -/
def word (n : Int) : List UInt8 :=
  let u := (n % 18446744073709551616).toNat
  (List.range 8).map fun i => UInt8.ofNat (u / Nat.pow 256 i % 256)

/-- A text and its end. -/
def text (s : String) : List UInt8 := Text.utf8 s ++ [0xFF]

/-- A list of texts. -/
def texts (xs : List String) : List UInt8 := word xs.length ++ xs.flatMap text

/-- A dictionary of texts. -/
def dict (d : Dict String) : List UInt8 :=
  word d.entries.length ++ d.entries.flatMap fun e => text e.1 ++ text e.2

/-- A run of bytes. -/
def bytes (b : List UInt8) : List UInt8 := word b.length ++ b

/-- The whole seconds of an optional instant. -/
def seconds (t : Option Instant) : List UInt8 :=
  match t with
  | none => word 0
  | some t => word 1 ++ word t.seconds

/-- Only the second of an instant is written. -/
theorem seconds_congr {t u : Option Instant} (h : t.map Instant.seconds = u.map Instant.seconds) :
    seconds t = seconds u := by
  cases t <;> cases u <;> simp_all [seconds]

/-- What a pass over an object reacts to: the specification, through its generation, and the labels,
annotations, finalizers and deletion. A change of the status alone does not show. -/
def fingerprint (m : Meta) : List UInt8 :=
  (m.generation.map word).getD [] ++ dict m.labelDict ++ dict m.annotationDict ++
    texts m.finalizerList ++ seconds m.deletionTimestamp

/-- What a pass over an ingress reacts to in a secret: its material and its deletion. Finalizers, which
the operator changes itself, do not show. -/
def secretFingerprint (s : Secret) : List UInt8 :=
  (s.data.getD Dict.empty).entries.flatMap (fun e => text e.1 ++ bytes e.2) ++
    seconds s.metadata.deletionTimestamp

end GatewayOperator.Watch
